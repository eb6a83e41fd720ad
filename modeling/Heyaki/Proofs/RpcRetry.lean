/-
Purpose: the request that a retry sends, and what a server that still knows the
call makes of it.

A retry says how much of its time is left, so its bytes are those of the original
request only as long as no time has passed since that one was sent.

Trusted boundary: the hash tells the two requests apart
Main exports: `retryRequest_bytes_iff`, `rpc_retry_same_digest`, `rpc_retry_conflicts`
-/
import Heyaki.Proofs.RpcClient
import Heyaki.Proofs.ProtoCodec

namespace Heyaki

open Foundation ProtoCodec List

/-! ### The bytes of a retry -/

theorem rpcRequestBytes_deadline_inj {request : RpcRequestBody} {remaining : UInt32}
    (same : rpcRequestBytes { request with deadlineRemainingMilliseconds := remaining } =
      rpcRequestBytes request) : remaining = request.deadlineRemainingMilliseconds := by
  have middle := append_cancel_right (append_cancel_right (append_cancel_right same))
  have field := append_cancel_left middle
  have values := appendUint_inj (appendBytes_inj field)
  apply UInt32.toNat_inj.mp
  simpa using congrArg UInt64.toNat values

namespace RpcService

variable {service after : RpcService} {call : RetryableCall} {clock : Nat} {log : List RpcRecord}

theorem retryRequest_bytes_iff (faithful : Faithful clock log call) (live : clock < call.deadline) :
    rpcRequestBytes (retryRequest call clock) = rpcRequestBytes call.request ↔
      clock = call.submitted := by
  have early := faithful.submitted
  -- Before the deadline the sum of its parts has not wrapped around.
  have small := call.request.deadlineRemainingMilliseconds.toNat_lt
  have deadline := faithful.deadline
  unfold addMilliseconds at deadline
  unfold retryRequest
  split
  · constructor
    · intro same
      have equal := congrArg UInt32.toNat (rpcRequestBytes_deadline_inj same)
      rw [UInt32.toNat_ofNat', Nat.mod_eq_of_lt (by omega)] at equal
      omega
    · intro now
      omega
  · constructor
    · intro _
      omega
    · intro _
      rfl

/-! ### What the server makes of it -/

/-- The server has a result for the request, or executes it. -/
def Knows (server : RpcService) (id : RequestId) (digest : List UInt8) : Prop :=
  (∃ result, server.resultCache.find? id = some result ∧ result.requestDigest = digest) ∨
    server.resultCache.find? id = none ∧ ∃ serial call, server.executing.find? id = some serial ∧
      server.calls[serial]? = some call ∧ call.requestDigest = digest

theorem requestVerdict_conflict_iff {server : RpcService} {request : RpcRequestBody}
    {digest other : List UInt8} {replies : FrameReplies}
    (knows : server.Knows request.requestId digest) :
    server.requestVerdict request other replies = .conflict ↔ other ≠ digest := by
  unfold requestVerdict
  rcases knows with ⟨result, cached, same⟩ | ⟨uncached, serial, call, executing, found, same⟩
  · simp only [cached, same]
    split
    · rename_i equal
      simp [equal]
    · rename_i differs
      simp [Ne.symm differs]
  · simp only [uncached, executing, found, Option.map_some, same, Option.some.injEq]
    split
    · rename_i equal
      simp [equal]
    · rename_i differs
      simp [Ne.symm differs]

/-! ### What a retry sends -/

/-- The record is not of another request than this one. -/
def Requests (request : RpcRequestBody) (record : RpcRecord) : Prop :=
  ∀ id bytes, record = .requestSent id bytes →
    id = request.requestId ∧ bytes = rpcRequestBytes request

theorem adds_submitCall (request : RpcRequestBody) (idempotent retryOnReconnect : Bool)
    (completion : Nat) (reply : SendReply) :
    Adds (Requests request) service
      (service.submitCall request idempotent retryOnReconnect completion reply).2 := by
  have reject (error : Error) (service : RpcService) : Adds (Requests request) service
      ((service.record [.callRejected request.requestId]).complete completion (.error error)) := by
    have rejected : Adds (Requests request) service
        (service.record [.callRejected request.requestId]) :=
      adds_one (.callRejected request.requestId) nofun rfl
    exact rejected.trans (adds_one (.completed completion (.error error)) nofun rfl)
  unfold submitCall
  dsimp only
  split
  · exact reject _ service
  rename_i encoded accepted
  split
  · exact reject _ service
  split
  · exact reject _ service
  have adds : Adds (Requests request) service
      (service.sendFrame (.requestSent request.requestId encoded) reply).2 := by
    apply adds_sendFrame
    · intro id bytes same
      cases same
      exact ⟨rfl, encodeRpcRequest_ok accepted⟩
    · intro record ofLoss id bytes same
      rw [same] at ofLoss
      exact ofLoss.elim
  split
  · rename_i error middle refused
    rw [refused] at adds
    exact adds.trans (reject error middle)
  · rename_i middle taken
    rw [taken] at adds
    exact adds.trans (adds_one (.callStarted request.requestId) nofun rfl)

theorem retryRequest_requestId (call : RetryableCall) (clock : Nat) :
    (retryRequest call clock).requestId = call.request.requestId := by
  unfold retryRequest
  split
  · rfl
  · rfl

theorem Faithful.mono {later : Nat} {longer : List RpcRecord} (faithful : Faithful clock log call)
    (passed : clock ≤ later) (grown : ∀ record ∈ log, record ∈ longer) :
    Faithful later longer call :=
  ⟨faithful.submitted.trans passed, faithful.deadline, grown _ faithful.sent⟩

end RpcService

namespace RpcOwner

open RpcService

variable {hash : List UInt8 → List UInt8} {owner : RpcOwner} {reply : SendReply}

/-- Every call that can still be sent again was sent before, and is as it was then. -/
structure Remembers (owner : RpcOwner) : Prop where
  pending : ∀ (id : RequestId) (call : PendingCall), owner.service.pending.find? id = some call →
    Faithful owner.service.clock (owner.past ++ owner.service.log) (PendingCall.retryableCall call)
  retryable : ∀ call ∈ owner.service.retryable,
    Faithful owner.service.clock (owner.past ++ owner.service.log) call
  taken : ∀ call ∈ owner.taken,
    Faithful owner.service.clock (owner.past ++ owner.service.log) call

section

variable (remembers : owner.Remembers)

include remembers

/-- The service goes on, and the owner keeps some of the calls it has taken. -/
theorem Remembers.advance {after : RpcService} {taken : List RetryableCall} {invocations : Nat}
    (clock : owner.service.clock ≤ after.clock)
    (log : ∃ records, after.log = owner.service.log ++ records)
    (pending : ∀ (id : RequestId) (call : PendingCall), after.pending.find? id = some call →
      owner.service.pending.find? id = some call ∨
        Faithful after.clock after.log (PendingCall.retryableCall call))
    (retryable : ∀ (call : RetryableCall), call ∈ after.retryable →
      call ∈ owner.service.retryable ∨ ∃ id waiting,
        owner.service.pending.find? id = some waiting ∧ call = PendingCall.retryableCall waiting)
    (kept : ∀ call ∈ taken, call ∈ owner.taken) :
    Remembers { owner with service := after, taken := taken, invocations := invocations } := by
  obtain ⟨records, grown⟩ := log
  have older {call : RetryableCall}
      (faithful : Faithful owner.service.clock (owner.past ++ owner.service.log) call) :
      Faithful after.clock (owner.past ++ after.log) call := by
    apply faithful.mono clock
    intro record member
    rw [grown, ← append_assoc]
    exact mem_append_left records member
  constructor
  · intro id call found
    rcases pending id call found with before | faithful
    · exact older (remembers.pending id call before)
    · exact faithful.mono (Nat.le_refl _) fun record member => mem_append_right _ member
  · intro call member
    rcases retryable call member with before | ⟨id, waiting, found, same⟩
    · exact older (remembers.retryable call before)
    · exact same ▸ older (remembers.pending id waiting found)
  · intro call member
    exact older (remembers.taken call (kept call member))

theorem Remembers.call {arguments : CallArguments} (attached : owner.service.attached = true) :
    (owner.step hash (.call arguments reply)).Remembers := by
  by_cases sensible : arguments.options.retryOnReconnect = true →
      arguments.options.idempotent = true
  · have submits := submits_call attached sensible owner.invocations reply
    exact remembers.advance submits.clock submits.log submits.pending submits.retryable
      fun _ member => member
  · -- The call is rejected before anything happens.
    have rejected : (owner.service.call arguments (some owner.invocations) reply).2 =
        owner.service := by
      unfold RpcService.call
      rw [attached, if_neg nofun]
      dsimp only
      rw [if_pos (by simpa using sensible)]
    have same : owner.step hash (.call arguments reply) =
        { owner with invocations := owner.invocations + 1 } := by
      simp only [step, rejected]
    rw [same]
    exact ⟨remembers.pending, remembers.retryable, remembers.taken⟩

theorem Remembers.resubmit {index : Nat} (attached : owner.service.attached = true) :
    (owner.step hash (.resubmit index reply)).Remembers := by
  cases found : owner.taken[index]? with
  | none =>
    rw [step_resubmit_of_none reply found]
    exact remembers
  | some call =>
    have submits := submits_resubmit attached call reply
    rw [step_resubmit_of_some reply found]
    exact remembers.advance submits.clock submits.log submits.pending submits.retryable
      fun _ member => mem_of_mem_eraseIdx member

theorem Remembers.renew {config : RpcServiceConfig} {limits : Limits} {channelId : UInt32} :
    (owner.renew config limits channelId).Remembers := by
  unfold RpcOwner.renew
  split
  · exact remembers
  rename_i service attached
  obtain ⟨-, rfl⟩ := attach_eq attached
  constructor
  · nofun
  · nofun
  · intro call member
    apply (remembers.taken call member).mono (Nat.le_refl _)
    intro record inside
    exact mem_append_left _ inside

end

theorem remembers_run {allowed : RpcOwner → Event → Prop} (run : Run hash allowed owner) :
    owner.Remembers := by
  induction run with
  | start isInitial =>
    obtain ⟨service, initial, rfl⟩ := isInitial
    obtain ⟨_, _, _, _, -, rfl⟩ := initial_eq initial
    exact ⟨nofun, nofun, nofun⟩
  | next event run ok ih =>
    cases event with
    | service event =>
      have drains := step_drains hash (sound_run run) event
      exact ih.advance drains.clock drains.log
        (fun id call found => .inl (drains.pending id call found)) drains.retryable
        fun _ member => member
    | call arguments reply => exact ih.call (attached_run run)
    | take =>
      refine ⟨ih.pending, nofun, fun call member => ?_⟩
      exact (mem_append.mp member).elim (ih.taken call) (ih.retryable call)
    | resubmit index reply => exact ih.resubmit (attached_run run)
    | renew config limits channelId => exact ih.renew

/-- A call that was handed back was sent as it is.  Its retry has the same digest
exactly if no time has passed since then; otherwise a server that still knows the
call takes the retry for a conflicting request. -/
theorem rpc_retry_same_digest {allowed : RpcOwner → Event → Prop} (run : Run hash allowed owner)
    {index : Nat} {call : RetryableCall} (handed : owner.taken[index]? = some call)
    (live : owner.service.clock < call.deadline) {reply : SendReply} {records : List RpcRecord}
    (log : (owner.step hash (.resubmit index reply)).service.log = owner.service.log ++ records)
    {id : RequestId} {retried : List UInt8} (sent : .requestSent id retried ∈ records)
    (distinguished : hash retried = hash (rpcRequestBytes call.request) →
      retried = rpcRequestBytes call.request) :
    id = call.request.requestId ∧
      .requestSent id (rpcRequestBytes call.request) ∈ owner.past ++ owner.service.log ∧
      (hash retried = hash (rpcRequestBytes call.request) ↔ owner.service.clock = call.submitted) ∧
      ∀ (server : RpcService) (request : RpcRequestBody) (replies : FrameReplies),
        server.Knows request.requestId (hash (rpcRequestBytes call.request)) →
          (server.requestVerdict request (hash retried) replies = .conflict ↔
            owner.service.clock ≠ call.submitted) := by
  have faithful := (remembers_run run).taken call (mem_of_getElem? handed)
  have isRetry : Requests (retryRequest call owner.service.clock) (.requestSent id retried) := by
    rw [step_resubmit_of_some reply handed, resubmit, attached_run run, if_neg nofun,
      if_neg (Nat.not_le.mpr live)] at log
    obtain ⟨others, sameLog, ofKind⟩ := adds_submitCall ..
    have same : records = others := append_cancel_left (log.symm.trans sameLog)
    exact ofKind _ (same ▸ sent)
  obtain ⟨sameId, bytes⟩ := isRetry id retried rfl
  have digests : hash retried = hash (rpcRequestBytes call.request) ↔
      owner.service.clock = call.submitted := by
    rw [← retryRequest_bytes_iff faithful live, ← bytes]
    exact ⟨distinguished, congrArg hash⟩
  refine ⟨sameId.trans (retryRequest_requestId ..), ?_, digests, fun server request replies knows => ?_⟩
  · rw [sameId, retryRequest_requestId]
    exact faithful.sent
  · rw [requestVerdict_conflict_iff knows]
    exact not_congr digests

/-! ### Sample runs -/

/-- The session is lost and replaced while the call is pending, and some time passes. -/
def reconnected (milliseconds : Nat) : List Event :=
  [sampleCall true true .accepted, .service .sessionClosed, .take, .renew {} {} 3,
    .service (.advance milliseconds)]

def sampleRetryable : RetryableCall :=
  { request := sampleRequest 1, deadline := 10000, completion := 0, submitted := 0 }

def answered : RpcService :=
  ((sampleArrival 1 :: sampleFinish).foldl (step id) (sampleOwner 2)).service

theorem answered_knows :
    answered.Knows (sampleRequestId 1) (rpcRequestBytes (sampleRequest 1)) := by
  have cached : (answered.resultCache.find? (sampleRequestId 1)).map (·.requestDigest) =
      some (rpcRequestBytes (sampleRequest 1)) := by
    decide +kernel
  exact .inl (Option.map_eq_some_iff.mp cached)

/-- A retry within the same millisecond is the original request. -/
theorem rpc_retry_same_digest_reconnected :
    answered.requestVerdict (sampleRequest 1) (rpcRequestBytes (sampleRequest 1)) {} ≠
      .conflict := by
  intro conflicts
  have run : Run id (fun _ _ => True) ((reconnected 0).foldl (step id) (sampleOwner 2)) :=
    Machine.Reaches.foldl (.start (sampleOwner_initial 2 (by decide))) (Machine.eachAllowed_true ..)
  have handed : ((reconnected 0).foldl (step id) (sampleOwner 2)).taken[0]? =
      some sampleRetryable := by
    decide +kernel
  have log : (((reconnected 0).foldl (step id) (sampleOwner 2)).step id
      (.resubmit 0 .accepted)).service.log =
        ((reconnected 0).foldl (step id) (sampleOwner 2)).service.log ++
          [.requestSent (sampleRequestId 1) (rpcRequestBytes (sampleRequest 1)),
            .callStarted (sampleRequestId 1)] := by
    decide +kernel
  obtain ⟨-, -, -, verdicts⟩ := rpc_retry_same_digest run handed (by decide +kernel) log (.head _)
    fun same => same
  exact (verdicts answered (sampleRequest 1) {} answered_knows).mp conflicts rfl

/-- One millisecond later the retry is another request, and the server that has
answered the original one fails the channel. -/
theorem rpc_retry_conflicts :
    let client := (reconnected 1).foldl (step id) (sampleOwner 2)
    let server := (sampleArrival 1 :: sampleFinish).foldl (step id) (sampleOwner 2)
    let retry : RpcRequestBody := { sampleRequest 1 with deadlineRemainingMilliseconds := 9999 }
    .requestSent (sampleRequestId 1) (sampleRequestFrame 1).payload ∈ client.past ∧
      (client.step id (.resubmit 0 .accepted)).service.log = client.service.log ++
        [.requestSent (sampleRequestId 1) (rpcRequestBytes retry),
          .callStarted (sampleRequestId 1)] ∧
      (server.step id (.service (.frame
        { sampleRequestFrame 1 with payload := rpcRequestBytes retry } {}))).service.log =
          server.service.log ++
            [.requestReceived, .conflicting (sampleRequestId 1), .channelFailed 2] :=
  ⟨by decide +kernel, by decide +kernel, by decide +kernel⟩

end RpcOwner

end Heyaki
