/-
Purpose: the calls that the RPC service makes, and their completions.

The ledger of a service is the multiset of the completions it was given: those
it invoked, those of pending calls and those of calls it handed back.  No event
of the service changes it, and a submitted call adds its own completion.

Main exports: `ledger`, `rpc_completes_once`, `rpc_completion_dropped`
-/
import Heyaki.Proofs.RpcServer

namespace Heyaki

open Foundation
open RetryableCall (completion)
open RpcService.PendingCall (retryableCall)
open List

namespace RpcService

variable {outcome : Except Error RpcCallOutcome} {replies : FrameReplies} {reply : SendReply}

/-! ### The ledger -/

def tokens (entries : List (RequestId × PendingCall)) : List Nat :=
  entries.map fun entry => entry.2.completion

/-- Every completion that the service was given and has not passed on. -/
def ledger (service : RpcService) : Multiset Nat :=
  completed service.log + tokens service.pending.entries + service.retryable.map completion

variable {service after middle : RpcService} {records : List RpcRecord}

@[simp] theorem completed_append (front back : List RpcRecord) :
    completed (front ++ back) = completed front ++ completed back :=
  filterMap_append

/-! ### Events that submit nothing -/

/-- Pending calls are completed or handed back, and no call is new. -/
structure Drains (service after : RpcService) : Prop where
  clock : service.clock ≤ after.clock
  log : ∃ records, after.log = service.log ++ records
  ledger : after.ledger = service.ledger
  pending : ∀ (id : RequestId) (call : PendingCall), after.pending.find? id = some call →
    service.pending.find? id = some call
  retryable : ∀ (call : RetryableCall), call ∈ after.retryable → call ∈ service.retryable ∨
    ∃ id waiting, service.pending.find? id = some waiting ∧ call = retryableCall waiting

theorem Drains.refl (service : RpcService) : Drains service service :=
  ⟨Nat.le_refl _, ⟨[], (append_nil _).symm⟩, rfl, fun _ _ found => found,
    fun _ member => .inl member⟩

theorem Drains.trans (one : Drains service middle)
    (two : Drains middle after) : Drains service after := by
  obtain ⟨front, logFront⟩ := one.log
  obtain ⟨back, logBack⟩ := two.log
  refine ⟨one.clock.trans two.clock, ⟨front ++ back, ?_⟩, two.ledger.trans one.ledger,
    fun id call found => one.pending id call (two.pending id call found), fun call member => ?_⟩
  · rw [logBack, logFront, append_assoc]
  · rcases two.retryable call member with before | ⟨id, waiting, found, same⟩
    · exact one.retryable call before
    · exact .inr ⟨id, waiting, one.pending id waiting found, same⟩

theorem drains_of_same (clock : service.clock ≤ after.clock)
    (pending : after.pending = service.pending) (retryable : after.retryable = service.retryable)
    (log : after.log = service.log ++ records) (silent : completed records = []) :
    Drains service after := by
  refine ⟨clock, ⟨records, log⟩, ?_, ?_, ?_⟩
  · rw [ledger, ledger, pending, retryable, log, completed_append, silent, append_nil]
  · intro id call found
    rwa [pending] at found
  · intro call member
    rw [retryable] at member
    exact .inl member

theorem drains_record (silent : completed records = []) :
    Drains service (service.record records) :=
  drains_of_same (Nat.le_refl _) rfl rfl rfl silent

/-! ### Calls that leave the table -/

/-- These calls, which were pending, are completed or handed back. -/
structure Closes (entries : List (RequestId × PendingCall)) (service after : RpcService) :
    Prop where
  clock : after.clock = service.clock
  log : ∃ records, after.log = service.log ++ records
  ledger : after.ledger = tokens entries + service.ledger
  pending : after.pending = service.pending
  retryable : ∀ (call : RetryableCall), call ∈ after.retryable → call ∈ service.retryable ∨
    ∃ entry ∈ entries, call = retryableCall entry.2

theorem ledger_complete (token : Nat) :
    (service.complete token outcome).ledger = token ::ₘ service.ledger := by
  have invoked : (completed (service.log ++ [.completed token outcome]) : Multiset Nat) =
      token ::ₘ completed service.log := by
    rw [completed_append, ← Multiset.coe_add, add_comm]
    rfl
  show (completed (service.log ++ [.completed token outcome]) : Multiset Nat) +
    tokens service.pending.entries + service.retryable.map completion = _
  rw [invoked, Multiset.cons_add, Multiset.cons_add, ledger]

theorem closes_complete (entry : RequestId × PendingCall) (outcome : Except Error RpcCallOutcome) :
    Closes [entry] service (service.complete entry.2.completion outcome) :=
  ⟨rfl, ⟨_, rfl⟩, (ledger_complete _).trans (Multiset.singleton_add _ _).symm, rfl, fun _ => .inl⟩

theorem closes_closeCall (entry : RequestId × PendingCall) :
    Closes [entry] service (service.closeCall entry.1 entry.2) := by
  unfold closeCall
  split
  · refine ⟨rfl, ⟨[.retryableHandled entry.1], rfl⟩, ?_, rfl, fun call member => ?_⟩
    · have silent : completed (service.log ++ [.retryableHandled entry.1]) =
          completed service.log := by
        rw [completed_append]
        exact append_nil _
      have handed : ((service.retryable ++ [retryableCall entry.2]).map
          completion : Multiset Nat) =
            service.retryable.map completion + tokens [entry] := by
        rw [map_append, Multiset.coe_add]
        rfl
      show (completed (service.log ++ [.retryableHandled entry.1]) : Multiset Nat) +
        tokens service.pending.entries + (service.retryable ++
          [retryableCall entry.2]).map completion = _
      rw [silent, handed, ledger]
      abel
    · rcases mem_append.mp member with before | last
      · exact .inl before
      · exact .inr ⟨entry, .head _, mem_singleton.mp last⟩
  · exact closes_complete entry _

theorem closes_foldl {f : RpcService → RequestId × PendingCall → RpcService}
    (closes : ∀ service entry, Closes [entry] service (f service entry))
    (entries : List (RequestId × PendingCall)) (service : RpcService) :
    Closes entries service (entries.foldl f service) := by
  induction entries generalizing service with
  | nil =>
    exact ⟨rfl, ⟨[], (append_nil _).symm⟩, (zero_add _).symm, rfl, fun _ => .inl⟩
  | cons entry entries ih =>
    have one := closes service entry
    have rest := ih (f service entry)
    obtain ⟨front, logFront⟩ := one.log
    obtain ⟨back, logBack⟩ := rest.log
    refine ⟨rest.clock.trans one.clock, ⟨front ++ back, ?_⟩, ?_, rest.pending.trans one.pending,
      fun call member => ?_⟩
    · rw [← append_assoc, ← logFront]
      exact logBack
    · have paid : (tokens (entry :: entries) : Multiset Nat) =
          tokens [entry] + tokens entries := rfl
      rw [paid, add_assoc, add_left_comm, ← one.ledger]
      exact rest.ledger
    · rcases rest.retryable call member with before | ⟨other, inside, same⟩
      · rcases one.retryable call before with earlier | ⟨other, inside, same⟩
        · exact .inl earlier
        · exact .inr ⟨other, mem_singleton.mp inside ▸ .head _, same⟩
      · exact .inr ⟨other, .tail _ inside, same⟩

theorem Closes.drains {entries : List (RequestId × PendingCall)}
    {rest : SortedMap RequestId PendingCall}
    (closes : Closes entries { service with pending := rest } after)
    (parts : (entries ++ rest.entries).Perm service.pending.entries) : Drains service after := by
  have inside (entry : RequestId × PendingCall) (member : entry ∈ entries ++ rest.entries) :
      service.pending.find? entry.1 = some entry.2 :=
    SortedMap.mem_entries_iff.mp (parts.mem_iff.mp member)
  refine ⟨closes.clock.ge, closes.log, ?_, ?_, ?_⟩
  · have counted : (tokens service.pending.entries : Multiset Nat) =
        tokens entries + tokens rest.entries := by
      rw [Multiset.coe_add, Multiset.coe_eq_coe]
      refine (parts.symm.map _).trans ?_
      rw [map_append]
      exact .refl _
    have left : RpcService.ledger { service with pending := rest } =
      (completed service.log : Multiset Nat) + tokens rest.entries +
        service.retryable.map completion := rfl
    rw [closes.ledger, left, RpcService.ledger, counted]
    abel
  · intro id call found
    rw [closes.pending] at found
    exact inside (id, call) (mem_append_right _ (SortedMap.mem_entries_iff.mpr found))
  · intro call member
    refine (closes.retryable call member).imp_right ?_
    rintro ⟨entry, here, same⟩
    exact ⟨entry.1, entry.2, inside entry (mem_append_left _ here), same⟩

theorem drains_closeCalls : Drains service
    (closeCalls service.pending.entries { service with pending := {} }) := by
  have closes : Closes service.pending.entries { service with pending := {} }
      (closeCalls service.pending.entries { service with pending := {} }) :=
    closes_foldl (fun service entry => closes_closeCall entry) _ _
  exact closes.drains (.of_eq (append_nil _))

theorem drains_completePending (id : RequestId) : Drains service (service.completePending id outcome) := by
  unfold completePending
  split
  · exact .refl service
  rename_i call found
  have closes : Closes [(id, call)]
      { service.record [.responseMatched id] with pending := service.pending.erase id }
      _ := closes_complete (id, call) outcome
  exact (drains_record rfl).trans (closes.drains (SortedMap.entries_erase_perm found).symm)

theorem drains_pruneClientDeadlines : Drains service service.pruneClientDeadlines := by
  have closes : Closes (service.pending.entries.filter fun entry =>
      decide (entry.2.deadline ≤ service.clock)) { service with
        pending := service.pending.filter fun _ call => decide (service.clock < call.deadline) }
      service.pruneClientDeadlines :=
    closes_foldl (fun service entry => closes_complete entry _) _ _
  refine closes.drains (.trans (.of_eq ?_) (filter_append_perm
    (fun entry => decide (entry.2.deadline ≤ service.clock)) _))
  refine congrArg (_ ++ ·) (filter_congr fun entry _ => ?_)
  rw [← decide_not]
  exact decide_eq_decide.mpr Nat.not_le.symm

variable (hash : List UInt8 → List UInt8)

theorem walk_drains (strict : Prop) : Walk hash strict Drains where
  refl := .refl
  trans := .trans
  server _ same := by
    obtain ⟨records, log, silent⟩ := same.log
    exact drains_of_same (Nat.le_of_eq same.clock.symm) same.pending same.retryable log silent
  advance _ := drains_of_same (Nat.le_add_right _ _) rfl rfl (append_nil _).symm rfl
  close _ := drains_closeCalls
  complete _ id _ := drains_completePending id
  prune _ := drains_pruneClientDeadlines

theorem step_drains (sound : Sound hash service) (event : Event) :
    Drains service (service.step hash event) :=
  (walk_drains hash False).step sound nofun

/-! ### Submitted calls -/

/-- What is known of a call that was sent: when it ran out of time and the bytes of
its request. -/
structure Faithful (clock : Nat) (log : List RpcRecord) (call : RetryableCall) : Prop where
  submitted : call.submitted ≤ clock
  deadline : call.deadline =
    addMilliseconds call.submitted call.request.deadlineRemainingMilliseconds.toNat
  sent : .requestSent call.request.requestId (rpcRequestBytes call.request) ∈ log

/-- A call is submitted: its completion is invoked or it is pending. -/
structure Submits (completion : Nat) (service after : RpcService) : Prop where
  clock : service.clock ≤ after.clock
  log : ∃ records, after.log = service.log ++ records
  ledger : after.ledger = completion ::ₘ service.ledger
  pending : ∀ (id : RequestId) (call : PendingCall), after.pending.find? id = some call →
    service.pending.find? id = some call ∨ Faithful after.clock after.log (retryableCall call)
  retryable : ∀ (call : RetryableCall), call ∈ after.retryable → call ∈ service.retryable ∨
    ∃ id waiting, service.pending.find? id = some waiting ∧ call = retryableCall waiting

theorem Drains.submits {completion : Nat} (drains : Drains service middle)
    (submits : Submits completion middle after) : Submits completion service after := by
  obtain ⟨front, logFront⟩ := drains.log
  obtain ⟨back, logBack⟩ := submits.log
  refine ⟨drains.clock.trans submits.clock, ⟨front ++ back, ?_⟩, ?_, fun id call found => ?_,
    fun call member => ?_⟩
  · rw [logBack, logFront, append_assoc]
  · rw [submits.ledger, drains.ledger]
  · exact (submits.pending id call found).imp_left (drains.pending id call)
  · rcases submits.retryable call member with before | ⟨id, waiting, found, same⟩
    · exact drains.retryable call before
    · exact .inr ⟨id, waiting, drains.pending id waiting found, same⟩

theorem submits_complete (completion : Nat) :
    Submits completion service (service.complete completion outcome) :=
  ⟨Nat.le_refl _, ⟨_, rfl⟩, ledger_complete completion, fun _ _ => .inl, fun _ => .inl⟩

theorem sendFrame_sent {sent : RpcRecord} {reply : SendReply}
    (taken : service.sendFrame sent reply = (.ok (), after)) : sent ∈ after.log := by
  unfold sendFrame at taken
  split at taken
  · cases taken
  split at taken
  · cases taken
    exact mem_append_right _ (.head _)
  · cases taken
  cases taken
  obtain ⟨records, log⟩ := ((walk_drains id False).handleSessionClosed _).log
  rw [log]
  exact mem_append_left _ (mem_append_right _ (.head _))

theorem submits_register (call : PendingCall)
    (absent : service.pending.find? call.request.requestId = none)
    (faithful : Faithful service.clock service.log (retryableCall call)) :
    Submits call.completion service (record [.callStarted call.request.requestId] { service with
      pending := service.pending.insert call.request.requestId call }) := by
  refine ⟨Nat.le_refl _, ⟨[.callStarted call.request.requestId], rfl⟩, ?_, ?_, fun _ => .inl⟩
  · have silent : completed (service.log ++ [.callStarted call.request.requestId]) =
        completed service.log := by
      rw [completed_append]
      exact append_nil _
    have added : (tokens (service.pending.insert call.request.requestId call).entries :
        Multiset Nat) = call.completion ::ₘ tokens service.pending.entries := by
      rw [Multiset.cons_coe, Multiset.coe_eq_coe]
      exact (SortedMap.entries_insert_perm call absent).map _
    show (completed (service.log ++ [.callStarted call.request.requestId]) : Multiset Nat) +
      tokens (service.pending.insert call.request.requestId call).entries +
        service.retryable.map RetryableCall.completion = _
    rw [silent, added, Multiset.add_cons, Multiset.cons_add, ledger]
  · intro id other found
    rcases SortedMap.find?_of_insert found with ⟨-, rfl⟩ | ⟨-, old⟩
    · exact .inr ⟨faithful.submitted, faithful.deadline, mem_append_left _ faithful.sent⟩
    · exact .inl old

theorem submits_submitCall (request : RpcRequestBody) (idempotent retryOnReconnect : Bool)
    (completion : Nat) :
    Submits completion service
      (service.submitCall request idempotent retryOnReconnect completion reply).2 := by
  have reject (error : Error) (service : RpcService) : Submits completion service
      ((service.record [.callRejected request.requestId]).complete completion (.error error)) :=
    (drains_record rfl).submits (submits_complete ..)
  unfold submitCall
  dsimp only
  split
  · exact reject _ service
  rename_i encoded accepted
  split
  · exact reject _ service
  split
  · exact reject _ service
  rename_i unused
  have drains : Drains service
      (service.sendFrame (.requestSent request.requestId encoded) reply).2 :=
    (walk_drains id False).sendFrame (.requestSent _ _) trivial rfl service reply
  split
  · rename_i error after refused
    rw [refused] at drains
    exact drains.submits (reject error after)
  · rename_i after taken
    rw [taken] at drains
    have absent : after.pending.find? request.requestId = none := by
      refine Option.eq_none_iff_forall_ne_some.mpr fun call found => unused ?_
      exact Option.isSome_iff_exists.mpr ⟨call, drains.pending _ call found⟩
    have sent : .requestSent request.requestId (rpcRequestBytes request) ∈ after.log :=
      encodeRpcRequest_ok accepted ▸ sendFrame_sent taken
    have registered : Submits completion after _ := submits_register {
      request := request
      deadline := addMilliseconds after.clock request.deadlineRemainingMilliseconds.toNat
      idempotent := idempotent
      retryOnReconnect := retryOnReconnect
      completion := completion
      submitted := after.clock } absent ⟨Nat.le_refl _, rfl, sent⟩
    exact drains.submits registered

theorem submits_call {arguments : CallArguments} (attached : service.attached = true)
    (sensible : arguments.options.retryOnReconnect = true → arguments.options.idempotent = true)
    (completion : Nat) (reply : SendReply) :
    Submits completion service (service.call arguments (some completion) reply).2 := by
  unfold call
  rw [attached]
  dsimp only
  rw [if_neg nofun, if_neg]
  · exact submits_submitCall ..
  · simpa using sensible

theorem submits_resubmit (attached : service.attached = true) (call : RetryableCall)
    (reply : SendReply) : Submits call.completion service (service.resubmit call reply).2 := by
  unfold resubmit
  rw [attached, if_neg nofun]
  split
  · exact submits_complete ..
  · exact submits_submitCall ..

end RpcService

namespace RpcOwner

open RpcService

variable {hash : List UInt8 → List UInt8} {owner : RpcOwner} {index : Nat}

/-- Completions that are still held: of pending calls, of calls handed back by the
service, and of those that the owner has taken. -/
def waiting (owner : RpcOwner) : List Nat :=
  tokens owner.service.pending.entries ++ owner.service.retryable.map completion ++
    owner.taken.map completion

def invoked (owner : RpcOwner) : List Nat := completed (owner.past ++ owner.service.log)

/-- Only idempotent calls ask for a retry, and a service is destroyed only when it
holds no call. -/
def Orderly (owner : RpcOwner) : Event → Prop
  | .call arguments _ =>
    arguments.options.retryOnReconnect = true → arguments.options.idempotent = true
  | .renew .. => owner.service.pending.entries = [] ∧ owner.service.retryable = []
  | _ => True

/-- The completions given out are those invoked and those still held. -/
def Balanced (owner : RpcOwner) : Prop :=
  (owner.invoked + owner.waiting : Multiset Nat) = Multiset.range owner.invocations

theorem balanced_iff (owner : RpcOwner) : owner.Balanced ↔
    (completed owner.past : Multiset Nat) + owner.service.ledger +
      owner.taken.map completion = Multiset.range owner.invocations := by
  rw [Balanced, invoked, completed_append, waiting, ← Multiset.coe_add, ← Multiset.coe_add,
    ← Multiset.coe_add, ledger]
  refine Eq.congr_left ?_
  abel

theorem step_resubmit_of_some {call : RetryableCall} (reply : SendReply)
    (found : owner.taken[index]? = some call) :
    owner.step hash (.resubmit index reply) = { owner with
      service := (owner.service.resubmit call reply).2
      taken := owner.taken.eraseIdx index } := by
  simp only [step, found]

theorem step_resubmit_of_none (reply : SendReply) (absent : owner.taken[index]? = none) :
    owner.step hash (.resubmit index reply) = owner := by
  simp only [step, absent]

theorem Balanced.take (balanced : owner.Balanced) : (owner.step hash .take).Balanced := by
  rw [balanced_iff] at balanced ⊢
  refine .trans ?_ balanced
  have kept : (owner.step hash .take).service.ledger =
      (completed owner.service.log : Multiset Nat) + tokens owner.service.pending.entries :=
    add_zero _
  have moved : ((owner.step hash .take).taken.map completion : Multiset Nat) =
      owner.taken.map completion +
        owner.service.retryable.map completion := by
    rw [Multiset.coe_add, ← map_append]
    rfl
  rw [kept, moved, ledger]
  show (completed owner.past : Multiset Nat) + _ + _ = _
  abel

theorem Balanced.resubmit {reply : SendReply} (balanced : owner.Balanced)
    (attached : owner.service.attached = true) :
    (owner.step hash (.resubmit index reply)).Balanced := by
  cases found : owner.taken[index]? with
  | none =>
    rw [step_resubmit_of_none reply found]
    exact balanced
  | some call =>
    obtain ⟨bound, isCall⟩ := List.getElem?_eq_some_iff.mp found
    have split : (owner.taken.map completion : Multiset Nat) =
        call.completion ::ₘ (owner.taken.eraseIdx index).map completion := by
      rw [Multiset.cons_coe, Multiset.coe_eq_coe, ← isCall]
      exact ((getElem_cons_eraseIdx_perm bound).map _).symm
    rw [step_resubmit_of_some reply found]
    rw [balanced_iff] at balanced ⊢
    have ledger := (submits_resubmit attached call reply).ledger
    refine (congrArg (_ + · + _) ledger).trans (.trans ?_ balanced)
    rw [split, Multiset.add_cons, Multiset.cons_add, Multiset.add_cons]

theorem Balanced.renew {config : RpcServiceConfig} {limits : Limits} {channelId : UInt32}
    (balanced : owner.Balanced) (noPending : owner.service.pending.entries = [])
    (noRetryable : owner.service.retryable = []) :
    (owner.renew config limits channelId).Balanced := by
  unfold RpcOwner.renew
  split
  · exact balanced
  rename_i service attached
  obtain ⟨-, rfl⟩ := attach_eq attached
  rw [balanced_iff] at balanced ⊢
  refine .trans ?_ balanced
  have spent : owner.service.ledger = completed owner.service.log := by
    rw [ledger, noPending, noRetryable]
    exact (add_zero _).trans (add_zero _)
  rw [spent, Multiset.coe_add, ← completed_append]
  exact congrArg (· + _) (add_zero _)

theorem balanced_step {event : Event} (sound : RpcService.Sound hash owner.service)
    (attached : owner.service.attached = true)
    (balanced : owner.Balanced) (orderly : owner.Orderly event) :
    (owner.step hash event).Balanced := by
  cases event with
  | service event =>
    rw [balanced_iff] at balanced ⊢
    have ledger := (step_drains hash sound event).ledger
    exact (congrArg (_ + · + _) ledger).trans balanced
  | call arguments reply =>
    rw [balanced_iff] at balanced ⊢
    have ledger := (submits_call attached orderly owner.invocations reply).ledger
    refine (congrArg (_ + · + _) ledger).trans ?_
    rw [Multiset.add_cons, Multiset.cons_add]
    refine (congrArg (owner.invocations ::ₘ ·) balanced).trans ?_
    exact (Multiset.range_succ _).symm
  | take => exact balanced.take
  | resubmit index reply => exact balanced.resubmit attached
  | renew config limits channelId => exact balanced.renew orderly.1 orderly.2

theorem balanced_run (run : Run hash Orderly owner) : owner.Balanced := by
  induction run with
  | start isInitial =>
    obtain ⟨service, initial, rfl⟩ := isInitial
    obtain ⟨_, _, _, _, -, rfl⟩ := initial_eq initial
    rfl
  | next event run ok ih => exact balanced_step (sound_run run) (attached_run run) ih ok

/-- The completion of every invocation is invoked once, unless its call is still
pending or in a retryable list; then it has not been invoked. -/
structure CompletesOnce (owner : RpcOwner) : Prop where
  once : ∀ completion, owner.invoked.count completion ≤ 1
  settled : ∀ completion, completion < owner.invocations → completion ∉ owner.waiting →
    owner.invoked.count completion = 1
  held : ∀ completion ∈ owner.waiting, owner.invoked.count completion = 0

theorem rpc_completes_once (run : Run hash Orderly owner) : owner.CompletesOnce := by
  have counted (completion : Nat) : owner.invoked.count completion +
      owner.waiting.count completion = if completion < owner.invocations then 1 else 0 := by
    have equal := congrArg (Multiset.count completion) (balanced_run run)
    rw [Multiset.count_add, Multiset.coe_count, Multiset.coe_count] at equal
    rw [equal, Multiset.count_eq_of_nodup (Multiset.nodup_range _)]
    simp only [Multiset.mem_range]
  refine ⟨fun completion => ?_, fun completion given free => ?_, fun completion member => ?_⟩
  · have total := counted completion
    split at total <;> omega
  · have total := counted completion
    rw [if_pos given, count_eq_zero.mpr free] at total
    exact total
  · have total := counted completion
    have positive := count_pos_iff.mpr member
    split at total <;> omega

/-! ### Sample runs -/

def sampleCall (idempotent retryOnReconnect : Bool) (reply : SendReply) : Event :=
  .call { service := asciiBytes "s", method := asciiBytes "m"
          options := { idempotent := idempotent, retryOnReconnect := retryOnReconnect }
          requestId := sampleRequestId 1, random := sampleRequestId 2 } reply

/-- The call is pending when the session is lost, is sent again over the next
session and runs out of time there. -/
def retried : List Event :=
  [sampleCall true true .accepted, .service .sessionClosed, .take, .renew {} {} 3,
    .resubmit 0 .accepted, .service (.advance 10000), .service (.prune fun _ => .accepted)]

theorem rpc_completes_once_retried :
    (retried.foldl (step id) (sampleOwner 2)).invoked = [0] ∧
      (retried.foldl (step id) (sampleOwner 2)).waiting = [] ∧
      (retried.foldl (step id) (sampleOwner 2)).CompletesOnce := by
  refine ⟨by decide +kernel, by decide +kernel, rpc_completes_once (Machine.Reaches.foldl
    (.start (sampleOwner_initial 2 (by decide))) ?_)⟩
  exact ⟨fun _ => rfl, trivial, trivial, ⟨by decide +kernel, by decide +kernel⟩, trivial, trivial,
    trivial, trivial⟩

/-- A call that asks for a retry but is not idempotent is rejected without its
completion; a call whose send loses the session is registered behind the loss and
destroyed with the service. -/
theorem rpc_completion_dropped :
    (let owner := step id (sampleOwner 2) (sampleCall false true .accepted)
     owner.invocations = 1 ∧ owner.waiting = [] ∧ owner.invoked = []) ∧
    (let owner := [sampleCall false false .lost, .take, .renew {} {} 3].foldl (step id)
      (sampleOwner 2)
     owner.invocations = 1 ∧ owner.waiting = [] ∧ owner.invoked = []) :=
  ⟨by decide +kernel, by decide +kernel⟩

end RpcOwner

end Heyaki
