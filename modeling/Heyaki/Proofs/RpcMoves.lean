/-
Purpose: what the server side of the RPC service can do, one move at a time.

Every event is a sequence of moves.  A move says what it needs: a phase turns
only while its execution is in the table, a result enters the cache only if none
is cached for its request.  That these needs are met is the invariant `Sound`,
which every move keeps.
-/
import Heyaki.Client.RpcService

namespace Heyaki

open Foundation SortedMap List

/-- The record is not about executions, results, responses or the session. -/
def RpcRecord.Plain : RpcRecord → Prop
  | .started _ | .handlerRan _ | .answered _ | .abandoned _ | .terminal .. | .responseSent ..
  | .sessionLost => False
  | _ => True

namespace RpcService

variable {service middle : RpcService} {serial : Nat} {call other : ServerCallState}
  {change : ServerCallState → ServerCallState} {id : RequestId} {digest request : List UInt8}
  {kind : RpcRecord → Prop} {reply : SendReply} {replies : FrameReplies} {frame : Frame}

/-! ### Evictions in order -/

/-- Each result that is given up for one of this size is the oldest one then cached. -/
def EvictsOldest (config : RpcServiceConfig) (bytes : Nat) :
    Nat → SortedMap RequestId CachedResult → Nat → Prop
  | 0, _, _ => True
  | rounds + 1, cache, total =>
    cacheFull config bytes cache total = true → ∀ id first, cache.first? = some (id, first) →
      (∀ other later, cache.find? other = some later → first.order ≤ later.order) ∧
      EvictsOldest config bytes rounds cache.dropFirst (total - first.bytes)

/-- Caching this response gives up the oldest results. -/
def CacheInOrder (service : RpcService) (encoded digest : List UInt8) : Prop :=
  encoded.length + digest.length ≤ service.config.resultCacheBytes →
    EvictsOldest service.config (encoded.length + digest.length) service.resultCache.size
      service.resultCache service.cachedBytes

/-! ### Moves -/

structure SameServer (service after : RpcService) : Prop where
  attached : after.attached = service.attached
  config : after.config = service.config
  limits : after.limits = service.limits
  sessionOpen : after.sessionOpen = service.sessionOpen
  calls : after.calls = service.calls
  executing : after.executing = service.executing
  posted : after.posted = service.posted
  resultCache : after.resultCache = service.resultCache
  cachedBytes : after.cachedBytes = service.cachedBytes

/-- What the executor and the flags of an execution may change. -/
structure Keeps (call after : ServerCallState) : Prop where
  requestId : after.requestId = call.requestId
  requestDigest : after.requestDigest = call.requestDigest
  bytes : after.bytes = call.bytes
  phase : after.phase = call.phase
  queued : after.task = .queued → call.task = .queued
  rejected : after.task = .rejected ↔ call.task = .rejected

/-- If `strict`, results are evicted in order. -/
inductive Move (hash : List UInt8 → List UInt8) (strict : Prop) (service : RpcService) :
    RpcService → Prop
  | quiet {after : RpcService} (records : List RpcRecord)
      (plain : ∀ record ∈ records, record.Plain) (same : SameServer service after)
      (log : after.log = service.log ++ records) : Move hash strict service after
  | reject (call : ServerCallState) (rejected : call.task = .rejected)
      (digest : call.requestDigest = hash call.bytes) :
      Move hash strict service { service with calls := service.calls ++ [call] }
  | start (call : ServerCallState) (queued : call.task = .queued) (fresh : call.phase = 0)
      (digest : call.requestDigest = hash call.bytes)
      (uncached : service.resultCache.find? call.requestId = none)
      (idle : service.executing.find? call.requestId = none)
      (room : service.executing.size < service.config.maxConcurrentServerCalls) :
      Move hash strict service (record [.started service.calls.length] { service with
        calls := service.calls ++ [call]
        executing := service.executing.insert call.requestId service.calls.length })
  | adjust (serial : Nat) (call : ServerCallState) (change : ServerCallState → ServerCallState)
      (found : service.calls[serial]? = some call) (keeps : Keeps call (change call)) :
      Move hash strict service (service.modifyCall serial change)
  | run (serial : Nat) (call : ServerCallState) (found : service.calls[serial]? = some call)
      (queued : call.task = .queued) :
      Move hash strict service
        ((service.modifyCall serial (setTask .running)).record [.handlerRan serial])
  | post (finish : PostedFinish) (call : ServerCallState)
      (found : service.calls[finish.serial]? = some call) (accepted : call.task ≠ .rejected) :
      Move hash strict service { service with posted := service.posted ++ [finish] }
  | unpost (index : Nat) :
      Move hash strict service { service with posted := service.posted.eraseIdx index }
  | turn (serial : Nat) (call : ServerCallState) (found : service.calls[serial]? = some call)
      (open_ : call.phase = 0)
      (active : service.executing.find? call.requestId = some serial) :
      Move hash strict service ((service.modifyCall serial turnPhase).record [.answered serial])
  | abandon (serial : Nat) (call : ServerCallState) (found : service.calls[serial]? = some call)
      (open_ : call.phase = 0) :
      Move hash strict service ((service.modifyCall serial turnPhase).record [.abandoned serial])
  | store (id : RequestId) (encoded request : List UInt8)
      (uncached : service.resultCache.find? id = none)
      (turned : ∀ serial call, service.executing.find? id = some serial →
        service.calls[serial]? = some call → call.phase ≠ 0)
      (inOrder : strict → service.CacheInOrder encoded (hash request)) :
      Move hash strict service (service.cacheResult id encoded (hash request) request)
  | drop (keep : RequestId → Nat → Bool)
      (turned : ∀ id serial call, service.executing.find? id = some serial →
        keep id serial = false → service.calls[serial]? = some call → call.phase ≠ 0) :
      Move hash strict service { service with executing := service.executing.filter keep }
  | respond (channelId : UInt32) (response : List UInt8) (isOpen : service.sessionOpen = true) :
      Move hash strict service (service.record [.responseSent channelId response])
  | lose (idle : ∀ id, service.executing.find? id = none) :
      Move hash strict service { service.record [.sessionLost] with sessionOpen := false }

abbrev Moves (hash : List UInt8 → List UInt8) (strict : Prop) : RpcService → RpcService → Prop :=
  Relation.ReflTransGen (Move hash strict)

/-! ### Calls in the list -/

theorem calls_modifyCall (other : Nat) (change : ServerCallState → ServerCallState) :
    (service.modifyCall serial change).calls[other]? =
      if serial = other then service.calls[other]?.map change else service.calls[other]? := by
  show (service.calls.modify serial change)[other]? = _
  rw [getElem?_modify]
  split
  · rfl
  · exact Option.map_id'

theorem calls_modifyCall_self (change : ServerCallState → ServerCallState)
    (found : service.calls[serial]? = some call) :
    (service.modifyCall serial change).calls[serial]? = some (change call) := by
  rw [calls_modifyCall, if_pos rfl, found]
  rfl

theorem calls_append (found : (service.calls ++ [call])[serial]? = some other) :
    service.calls[serial]? = some other ∨ serial = service.calls.length ∧ other = call := by
  rw [getElem?_append] at found
  split at found
  · exact .inl found
  obtain ⟨position, same⟩ := List.getElem?_eq_some_iff.mp found
  have last : serial - service.calls.length = 0 := Nat.lt_one_iff.mp position
  refine .inr ⟨by omega, ?_⟩
  rw [← same]
  simp [last]

theorem calls_append_old (found : service.calls[serial]? = some other) :
    (service.calls ++ [call])[serial]? = some other := by
  rw [List.getElem?_append_left (List.getElem?_eq_some_iff.mp found).1]
  exact found

/-! ### The invariant -/

/-- The table of executions, the list of calls and the cache fit together. -/
structure Sound (hash : List UInt8 → List UInt8) (service : RpcService) : Prop where
  known : ∀ id serial, service.executing.find? id = some serial →
    ∃ call, service.calls[serial]? = some call ∧ call.requestId = id ∧ call.task ≠ .rejected
  active : ∀ (serial : Nat) (call : ServerCallState), service.calls[serial]? = some call →
    call.phase = 0 → call.task ≠ .rejected →
    service.executing.find? call.requestId = some serial
  posted : ∀ finish ∈ service.posted, ∃ call, service.calls[finish.serial]? = some call ∧
    call.task ≠ .rejected
  digest : ∀ (serial : Nat) (call : ServerCallState), service.calls[serial]? = some call →
    call.requestDigest = hash call.bytes
  uncached : ∀ id serial call, service.executing.find? id = some serial →
    service.calls[serial]? = some call → call.phase = 0 → service.resultCache.find? id = none
  bounded : service.executing.size ≤ service.config.maxConcurrentServerCalls

variable {hash : List UInt8 → List UInt8} {strict : Prop} {service after : RpcService}
  {config : RpcServiceConfig} {result : CachedResult} {encoded : List UInt8} {α : Type*}
  {f : RpcService → α → RpcService}

theorem Sound.of_same (sound : Sound hash service) (same : SameServer service after) :
    Sound hash after := by
  cases service
  cases after
  obtain ⟨rfl, rfl, rfl, rfl, rfl, rfl, rfl, rfl, rfl⟩ := same
  exact { sound with }

theorem sameServer_record (records : List RpcRecord) (service : RpcService) :
    SameServer service (service.record records) :=
  ⟨rfl, rfl, rfl, rfl, rfl, rfl, rfl, rfl, rfl⟩

section

variable (sound : Sound hash service)

include sound

/-- One more call: it is in the table of executions if and only if it was accepted. -/
theorem Sound.append {executing : SortedMap RequestId Nat}
    (digest : call.requestDigest = hash call.bytes)
    (known : ∀ id serial, executing.find? id = some serial →
      service.executing.find? id = some serial ∨ serial = service.calls.length ∧
        call.requestId = id ∧ call.task ≠ .rejected ∧ service.resultCache.find? id = none)
    (kept : ∀ id serial, service.executing.find? id = some serial → executing.find? id = some serial)
    (active : call.task ≠ .rejected → executing.find? call.requestId = some service.calls.length)
    (bounded : executing.size ≤ service.config.maxConcurrentServerCalls) :
    Sound hash { service with calls := service.calls ++ [call], executing } := by
  refine ⟨?_, ?_, ?_, ?_, ?_, bounded⟩
  · intro id serial found
    rcases known id serial found with before | ⟨last, same, accepted, -⟩
    · obtain ⟨other, position, rest⟩ := sound.known id serial before
      exact ⟨other, calls_append_old position, rest⟩
    · exact ⟨call, last ▸ getElem?_concat_length, same, accepted⟩
  · intro serial other found isOpen accepted
    rcases calls_append found with before | ⟨last, same⟩
    · exact kept _ _ (sound.active serial other before isOpen accepted)
    · subst same last
      exact active accepted
  · intro finish member
    obtain ⟨other, position, accepted⟩ := sound.posted finish member
    exact ⟨other, calls_append_old position, accepted⟩
  · intro serial other found
    rcases calls_append found with before | ⟨-, same⟩
    · exact sound.digest serial other before
    · exact same ▸ digest
  · intro id serial other found position isOpen
    rcases known id serial found with before | ⟨-, -, -, uncached⟩
    · obtain ⟨known, old, -⟩ := sound.known id serial before
      cases (calls_append_old old).symm.trans position
      exact sound.uncached id serial _ before old isOpen
    · exact uncached

section

variable (found : service.calls[serial]? = some call)

include found

/-- A change of one call that keeps its request and does not reopen it. -/
theorem Sound.modify (requestId : (change call).requestId = call.requestId)
    (requestDigest : (change call).requestDigest = call.requestDigest)
    (bytes : (change call).bytes = call.bytes) (phase : (change call).phase = 0 → call.phase = 0)
    (rejected : (change call).task = .rejected ↔ call.task = .rejected) :
    Sound hash (service.modifyCall serial change) := by
  -- A call of the new list is a call of the old one, or the changed one.
  have old {other : Nat} {now : ServerCallState}
      (position : (service.modifyCall serial change).calls[other]? = some now) :
      ∃ before, service.calls[other]? = some before ∧ now.requestId = before.requestId ∧
        now.requestDigest = before.requestDigest ∧ now.bytes = before.bytes ∧
        (now.phase = 0 → before.phase = 0) ∧ (now.task = .rejected ↔ before.task = .rejected) := by
    rw [calls_modifyCall] at position
    split at position
    · rename_i same
      subst same
      rw [found] at position
      cases position
      exact ⟨call, found, requestId, requestDigest, bytes, phase, rejected⟩
    · exact ⟨now, position, rfl, rfl, rfl, id, Iff.rfl⟩
  have new {other : Nat} {before : ServerCallState}
      (position : service.calls[other]? = some before) :
      ∃ now, (service.modifyCall serial change).calls[other]? = some now ∧
        now.requestId = before.requestId ∧ (now.task = .rejected ↔ before.task = .rejected) := by
    rw [calls_modifyCall]
    split
    · rename_i same
      subst same
      cases found.symm.trans position
      exact ⟨change call, by rw [found]; rfl, requestId, rejected⟩
    · exact ⟨before, position, rfl, Iff.rfl⟩
  refine ⟨?_, ?_, ?_, ?_, ?_, sound.bounded⟩
  · intro id other executing
    obtain ⟨before, position, same, accepted⟩ := sound.known id other executing
    obtain ⟨now, after, nowId, nowTask⟩ := new position
    exact ⟨now, after, nowId.trans same, fun reject => accepted (nowTask.mp reject)⟩
  · intro other now position isOpen accepted
    obtain ⟨before, beforePosition, nowId, -, -, opens, task⟩ := old position
    rw [nowId]
    exact sound.active other before beforePosition (opens isOpen) fun reject =>
      accepted (task.mpr reject)
  · intro finish member
    obtain ⟨before, position, accepted⟩ := sound.posted finish member
    obtain ⟨now, after, -, nowTask⟩ := new position
    exact ⟨now, after, fun reject => accepted (nowTask.mp reject)⟩
  · intro other now position
    obtain ⟨before, beforePosition, -, nowDigest, nowBytes, -, -⟩ := old position
    rw [nowDigest, nowBytes]
    exact sound.digest other before beforePosition
  · intro id other now executing position isOpen
    obtain ⟨before, beforePosition, -, -, -, opens, -⟩ := old position
    exact sound.uncached id other before executing beforePosition (opens isOpen)

theorem Sound.adjust (keeps : Keeps call (change call)) :
    Sound hash (service.modifyCall serial change) :=
  sound.modify found keeps.requestId keeps.requestDigest keeps.bytes
    (fun isOpen => keeps.phase ▸ isOpen) keeps.rejected

theorem Sound.turn :
    Sound hash (service.modifyCall serial turnPhase) :=
  sound.modify found rfl rfl rfl (nofun : (turnPhase call).phase = 0 → _) Iff.rfl

end

theorem Sound.drop {keep : RequestId → Nat → Bool}
    (turned : ∀ id serial call, service.executing.find? id = some serial →
      keep id serial = false → service.calls[serial]? = some call → call.phase ≠ 0) :
    Sound hash { service with executing := service.executing.filter keep } := by
  have kept {id : RequestId} {serial : Nat}
      (found : (service.executing.filter keep).find? id = some serial) :
      service.executing.find? id = some serial := by
    rw [SortedMap.find?_filter, Option.filter_eq_some_iff] at found
    exact found.1
  refine ⟨?_, ?_, sound.posted, sound.digest, ?_, ?_⟩
  · intro id serial found
    exact sound.known id serial (kept found)
  · intro serial call position isOpen accepted
    have executing := sound.active serial call position isOpen accepted
    rw [SortedMap.find?_filter, Option.filter_eq_some_iff]
    refine ⟨executing, ?_⟩
    by_contra notKept
    exact turned _ serial call executing (Bool.eq_false_iff.mpr notKept) position isOpen
  · intro id serial call found position isOpen
    exact sound.uncached id serial call (kept found) position isOpen
  · exact (size_filter_le keep service.executing).trans sound.bounded

/-! ### The cache -/

end

/-- The phase of the request's execution, if it has one, has turned. -/
def Turned (service : RpcService) (id : RequestId) : Prop :=
  ∀ serial call, service.executing.find? id = some serial → service.calls[serial]? = some call →
    call.phase ≠ 0

theorem find?_evict {bytes : Nat} (rounds : Nat)
    (cache : SortedMap RequestId CachedResult) (total : Nat)
    (found : (evict config bytes rounds cache total).1.find? id = some result) :
    cache.find? id = some result := by
  induction rounds generalizing cache total with
  | zero => exact found
  | succ rounds ih =>
    unfold evict at found
    split at found
    · split at found
      · exact found
      rename_i first isFirst
      have later := ih _ _ found
      rw [find?_dropFirst isFirst] at later
      split at later
      · cases later
      · exact later
    · exact found

/-- A result that is cached after a response was cached is that one or an old one. -/
theorem find?_cacheResult {other : RequestId}
    (found : (service.cacheResult id encoded digest request).resultCache.find? other =
      some result) :
    other = id ∨ service.resultCache.find? other = some result := by
  unfold cacheResult at found
  dsimp only at found
  split at found
  · exact .inr found
  split at found
  · exact .inr (find?_evict _ _ _ found)
  rcases find?_of_insert found with ⟨same, -⟩ | ⟨-, old⟩
  · exact .inl same
  · exact .inr (find?_evict _ _ _ old)

theorem cacheResult_eq (encoded digest request : List UInt8) :
    service.cacheResult id encoded digest request = { service with
      log := service.log ++ [.terminal id request digest encoded]
      resultCache := (service.cacheResult id encoded digest request).resultCache
      cachedBytes := (service.cacheResult id encoded digest request).cachedBytes } := by
  unfold cacheResult
  dsimp only
  split
  · rfl
  · split <;> rfl

theorem Sound.store (sound : Sound hash service) (turned : service.Turned id) :
    Sound hash (service.cacheResult id encoded digest request) := by
  rw [cacheResult_eq]
  refine ⟨sound.known, sound.active, sound.posted, sound.digest, ?_, sound.bounded⟩
  intro other serial call found position isOpen
  have before := sound.uncached other serial call found position isOpen
  refine Option.eq_none_iff_forall_not_mem.mpr fun result cached => ?_
  rcases find?_cacheResult cached with same | old
  · exact turned serial call (same ▸ found) position isOpen
  · rw [before] at old
    cases old

theorem Sound.move (sound : Sound hash service) (move : Move hash strict service after) :
    Sound hash after := by
  cases move with
  | quiet records plain same log => exact sound.of_same same
  | reject call rejected digest =>
    exact sound.append digest (fun _ _ => .inl) (fun _ _ => id) (absurd rejected) sound.bounded
  | start call queued fresh digest uncached idle room =>
    refine (sound.append digest ?_ ?_ ?_ ?_).of_same (sameServer_record _ _)
    · intro id serial found
      rcases find?_of_insert found with ⟨rfl, rfl⟩ | ⟨-, old⟩
      · exact .inr ⟨rfl, rfl, by rw [queued]; nofun, uncached⟩
      · exact .inl old
    · intro id serial found
      rw [find?_insert, if_neg, found]
      intro same
      rw [same, idle] at found
      cases found
    · exact fun _ => find?_insert_self ..
    · rw [size_insert_of_absent idle]
      exact room
  | adjust serial call change found keeps => exact sound.adjust found keeps
  | run serial call found queued =>
    have keeps : Keeps call (setTask .running call) :=
      ⟨rfl, rfl, rfl, rfl, nofun, by rw [queued]; exact ⟨nofun, nofun⟩⟩
    exact (sound.adjust found keeps).of_same (sameServer_record _ _)
  | post finish call found accepted =>
    refine ⟨sound.known, sound.active, ?_, sound.digest, sound.uncached, sound.bounded⟩
    intro other member
    rcases mem_append.mp member with before | last
    · exact sound.posted other before
    · cases mem_singleton.mp last
      exact ⟨call, found, accepted⟩
  | unpost index =>
    exact ⟨sound.known, sound.active, fun finish member =>
      sound.posted finish (mem_of_mem_eraseIdx member), sound.digest, sound.uncached,
      sound.bounded⟩
  | turn serial call found isOpen active =>
    exact (sound.turn found).of_same (sameServer_record _ _)
  | abandon serial call found isOpen => exact (sound.turn found).of_same (sameServer_record _ _)
  | store id encoded request uncached turned inOrder => exact sound.store turned
  | drop keep turned => exact sound.drop turned
  | respond channelId response isOpen => exact sound.of_same (sameServer_record _ _)
  | lose idle =>
    exact { sound with }

theorem Sound.moves (sound : Sound hash service) (moves : Moves hash strict service after) :
    Sound hash after := by
  induction moves with
  | refl => exact sound
  | tail _ move ih => exact ih.move move

/-! ### Quiet steps -/

/-- Only plain records are added and the server side is left alone. -/
def Quiet (service after : RpcService) : Prop :=
  ∃ records, (∀ record ∈ records, RpcRecord.Plain record) ∧ SameServer service after ∧
    after.log = service.log ++ records

theorem SameServer.trans (one : SameServer service middle) (two : SameServer middle after) :
    SameServer service after := by
  cases service
  cases middle
  obtain ⟨rfl, rfl, rfl, rfl, rfl, rfl, rfl, rfl, rfl⟩ := one
  exact { two with }

theorem Quiet.trans (one : Quiet service middle) (two : Quiet middle after) :
    Quiet service after := by
  obtain ⟨front, plainFront, sameFront, logFront⟩ := one
  obtain ⟨back, plainBack, sameBack, logBack⟩ := two
  refine ⟨front ++ back, forall_mem_append.mpr ⟨plainFront, plainBack⟩, sameFront.trans sameBack, ?_⟩
  rw [logBack, logFront, append_assoc]

theorem quiet_client (clock : Nat) (pending : SortedMap RequestId PendingCall)
    (retryable : List RetryableCall) : Quiet service { service with clock, pending, retryable } :=
  ⟨[], nofun, ⟨rfl, rfl, rfl, rfl, rfl, rfl, rfl, rfl, rfl⟩, (append_nil _).symm⟩

theorem quiet_refl (service : RpcService) : Quiet service service := quiet_client ..

theorem quiet_record (record : RpcRecord) (plain : record.Plain) (service : RpcService) :
    Quiet service (service.record [record]) :=
  ⟨[record], forall_mem_singleton.mpr plain, sameServer_record _ _, rfl⟩

theorem quiet_foldl (quiet : ∀ service entry, Quiet service (f service entry)) (entries : List α)
    (service : RpcService) : Quiet service (entries.foldl f service) := by
  induction entries generalizing service with
  | nil => exact quiet_refl service
  | cons entry entries ih => exact (quiet service entry).trans (ih _)

theorem Quiet.moves (quiet : Quiet service after) : Moves hash strict service after := by
  obtain ⟨records, plain, same, log⟩ := quiet
  exact .single (.quiet records plain same log)

theorem quiet_complete (completion : Nat) (outcome : Except Error RpcCallOutcome) :
    Quiet service (service.complete completion outcome) :=
  quiet_record (.completed completion outcome) trivial service

theorem quiet_closeCall (id : RequestId) (call : PendingCall) :
    Quiet service (service.closeCall id call) := by
  unfold closeCall
  split
  · have handed : Quiet service
        { service with retryable := service.retryable ++ [PendingCall.retryableCall call] } :=
      quiet_client ..
    exact handed.trans (quiet_record (.retryableHandled id) trivial _)
  · exact quiet_complete ..

/-! ### Walks -/

def completed (log : List RpcRecord) : List Nat :=
  log.filterMap fun entry =>
    match entry with
    | .completed completion _ => some completion
    | _ => none

structure SameClient (service after : RpcService) : Prop where
  clock : after.clock = service.clock
  pending : after.pending = service.pending
  retryable : after.retryable = service.retryable
  log : ∃ records, after.log = service.log ++ records ∧ completed records = []

/-- A relation that contains the moves of the server and the four ways in which pending calls
and the clock change. -/
structure Walk (hash : List UInt8 → List UInt8) (strict : Prop)
    (relates : RpcService → RpcService → Prop) : Prop where
  refl : ∀ service, relates service service
  trans : ∀ {service middle after}, relates service middle → relates middle after →
    relates service after
  server : ∀ {service after}, Move hash strict service after → SameClient service after →
    relates service after
  advance : ∀ {service : RpcService} (milliseconds : Nat),
    relates service { service with clock := service.clock + milliseconds }
  close : ∀ service : RpcService,
    relates service (closeCalls service.pending.entries { service with pending := {} })
  complete : ∀ (service : RpcService) (id : RequestId) (outcome : Except Error RpcCallOutcome),
    relates service (service.completePending id outcome)
  prune : ∀ service : RpcService, relates service service.pruneClientDeadlines

/-- An execution that is still open was open before, and is not the abandoned one. -/
theorem abandon_open {other : Nat} (found : (service.abandon serial).calls[other]? = some call)
    (isOpen : call.phase = 0) :
    other ≠ serial ∧ service.calls[other]? = some call := by
  unfold abandon at found
  split at found
  · rename_i absent
    refine ⟨?_, found⟩
    rintro rfl
    rw [absent] at found
    cases found
  · rename_i before position
    split at found
    · have modified : (service.modifyCall serial turnPhase).calls[other]? = some call := found
      rw [calls_modifyCall] at modified
      split at modified
      · rename_i same
        subst same
        rw [position] at modified
        cases modified
        cases isOpen
      · exact ⟨Ne.symm ‹_›, modified⟩
    · rename_i notOpen
      refine ⟨?_, found⟩
      rintro rfl
      cases position.symm.trans found
      exact notOpen isOpen

theorem abandon_executing : (service.abandon serial).executing = service.executing := by
  unfold abandon
  split
  · rfl
  · split <;> rfl

variable (entries : List (RequestId × Nat)) {channelId : UInt32}

/-- An execution that is open at the end was open all along and is none of the list's. -/
theorem abandonAll_open {entries : List (RequestId × Nat)}
    (found : (service.abandonAll entries).calls[serial]? = some call) (isOpen : call.phase = 0) :
    service.calls[serial]? = some call ∧ ∀ entry ∈ entries, serial ≠ entry.2 := by
  induction entries generalizing service with
  | nil => exact ⟨found, nofun⟩
  | cons head tail ih =>
    obtain ⟨position, apart⟩ := ih found
    obtain ⟨notHead, before⟩ := abandon_open position isOpen
    refine ⟨before, fun entry member => ?_⟩
    rcases mem_cons.mp member with same | later
    · exact same ▸ notHead
    · exact apart entry later

theorem abandonAll_executing (service : RpcService) :
    (service.abandonAll entries).executing = service.executing := by
  induction entries generalizing service with
  | nil => rfl
  | cons head tail ih => exact (ih _).trans abandon_executing

theorem quiet_closeCalls (entries : List (RequestId × PendingCall)) :
    Quiet service (service.closeCalls entries) := by
  exact quiet_foldl (fun service entry => quiet_closeCall entry.1 entry.2) entries service

theorem quiet_completePending (outcome : Except Error RpcCallOutcome) :
    Quiet service (service.completePending id outcome) := by
  unfold completePending
  split
  · exact quiet_refl service
  · have erased : Quiet service { service with pending := service.pending.erase id } :=
      quiet_client ..
    exact erased.trans ((quiet_record (.responseMatched id) trivial _).trans (quiet_complete ..))

theorem quiet_pruneClientDeadlines : Quiet service service.pruneClientDeadlines := by
  have kept : Quiet service { service with
      pending := service.pending.filter fun _ call => decide (service.clock < call.deadline) } :=
      quiet_client ..
  exact kept.trans (quiet_foldl (fun service entry => quiet_complete _ _) _ _)

theorem walk_moves : Walk hash strict (Moves hash strict) where
  refl _ := .refl
  trans := .trans
  server move _ := .single move
  advance {service} milliseconds := by
    have later : Quiet service { service with clock := service.clock + milliseconds } :=
      quiet_client ..
    exact later.moves
  close service := by
    have cleared : Quiet service { service with pending := {} } := quiet_client ..
    exact (cleared.trans (quiet_closeCalls _)).moves
  complete service id outcome := (quiet_completePending outcome).moves
  prune service := (quiet_pruneClientDeadlines).moves

def Adds (kind : RpcRecord → Prop) (service after : RpcService) : Prop :=
  ∃ records, after.log = service.log ++ records ∧ ∀ record ∈ records, kind record

theorem Adds.refl (kind : RpcRecord → Prop) (service : RpcService) : Adds kind service service :=
  ⟨[], (append_nil _).symm, nofun⟩

theorem Adds.trans (one : Adds kind service middle) (two : Adds kind middle after) :
    Adds kind service after := by
  obtain ⟨front, logFront, ofFront⟩ := one
  obtain ⟨back, logBack, ofBack⟩ := two
  exact ⟨front ++ back, by rw [logBack, logFront, append_assoc],
    forall_mem_append.mpr ⟨ofFront, ofBack⟩⟩

theorem Adds.mono {other : RpcRecord → Prop} (adds : Adds kind service after)
    (weaker : ∀ record, kind record → other record) : Adds other service after := by
  obtain ⟨records, log, ofKind⟩ := adds
  exact ⟨records, log, fun record member => weaker record (ofKind record member)⟩

theorem adds_one (record : RpcRecord) (ofKind : kind record)
    (log : after.log = service.log ++ [record]) : Adds kind service after :=
  ⟨[record], log, forall_mem_singleton.mpr ofKind⟩

theorem adds_foldl (adds : ∀ service entry, Adds kind service (f service entry)) (entries : List α)
    (service : RpcService) : Adds kind service (entries.foldl f service) := by
  induction entries generalizing service with
  | nil => exact .refl kind service
  | cons entry entries ih => exact (adds service entry).trans (ih _)

def OfLoss : RpcRecord → Prop
  | .abandoned _ | .sessionLost | .retryableHandled _ | .completed .. => True
  | _ => False

theorem adds_handleSessionClosed : Adds OfLoss service service.handleSessionClosed := by
  have abandoned (service : RpcService) (entry : RequestId × Nat) :
      Adds OfLoss service (service.abandon entry.2) := by
    unfold abandon
    split
    · exact .refl _ service
    · split
      · exact adds_one (.abandoned entry.2) trivial rfl
      · exact .refl _ service
  have closed (service : RpcService) (entry : RequestId × PendingCall) :
      Adds OfLoss service (service.closeCall entry.1 entry.2) := by
    unfold closeCall
    split
    · exact adds_one (.retryableHandled entry.1) trivial rfl
    · exact adds_one (.completed ..) trivial rfl
  have lost (service : RpcService) : Adds OfLoss service
      { service.record [.sessionLost] with
        executing := {}, sessionOpen := false, pending := {} } :=
    adds_one .sessionLost trivial rfl
  exact (adds_foldl abandoned _ service).trans ((lost _).trans (adds_foldl closed _ _))

theorem adds_sendFrame {sent : RpcRecord} (ofKind : kind sent)
    (ofLoss : ∀ record, OfLoss record → kind record) (reply : SendReply) :
    Adds kind service (service.sendFrame sent reply).2 := by
  have taken : Adds kind service (service.record [sent]) := adds_one sent ofKind rfl
  unfold sendFrame
  split
  · exact .refl kind service
  cases reply with
  | accepted => exact taken
  | refused error => exact .refl kind service
  | lost => exact taken.trans ((adds_handleSessionClosed).mono ofLoss)

/-- The execution that just turned is the only one of its request. -/
theorem turned_of_active (found : service.calls[serial]? = some call)
    (active : service.executing.find? call.requestId = some serial) :
    (service.modifyCall serial turnPhase).Turned call.requestId := by
  intro other now executing position
  cases active.symm.trans executing
  rw [calls_modifyCall_self turnPhase found] at position
  cases position
  nofun

theorem finishRecords_plain (serial : Nat) (call : ServerCallState) (result : RpcHandlerResult)
    (handlerRan : Bool) :
    ∀ record ∈ finishRecords serial call result handlerRan, record.Plain := by
  intro record member
  simp only [finishRecords, mem_append] at member
  rcases member with (member | member) | member
  all_goals
    split at member
    · exact mem_singleton.mp member ▸ trivial
    · cases member

/-- The status and detail a request is refused with before any handler runs. -/
def refusal? (request : RpcRequestBody) (digest : List UInt8) (replies : FrameReplies)
    (service : RpcService) : Option (StableStatus × String) :=
  match service.requestVerdict request digest replies with
  | .refuse status detail => some (status, detail)
  | .start =>
    if !replies.stillRegistered then some (.unimplemented, "method_unknown")
    else
      match replies.dispatched with
      | .rejected => some (.resourceExhausted, "dispatch_rejected")
      | .accepted _ => none
  | _ => none

/-- A request that gets past the cache and the table of executions is in neither,
and one that starts finds room. -/
theorem requestVerdict_new {request : RpcRequestBody} {verdict : RequestVerdict}
    (isVerdict : service.requestVerdict request digest replies = verdict)
    (new : verdict = .start ∨ ∃ status detail, verdict = .refuse status detail) :
    service.resultCache.find? request.requestId = none ∧
      service.executing.find? request.requestId = none ∧
      (verdict = .start → service.executing.size < service.config.maxConcurrentServerCalls) := by
  unfold requestVerdict at isVerdict
  split at isVerdict
  · split at isVerdict <;> subst isVerdict <;> simp at new
  rename_i uncached
  split at isVerdict
  · split at isVerdict <;> subst isVerdict <;> simp at new
  rename_i idle
  refine ⟨uncached, idle, ?_⟩
  rintro rfl
  unfold admissionVerdict at isVerdict
  repeat' split at isVerdict
  all_goals first
    | exact Nat.not_le.mp ‹¬ service.executing.size ≥ _›
    | cases isVerdict

theorem keeps_setTask {task : TaskState} (before : call.task ≠ .rejected)
    (notQueued : task ≠ .queued) (accepted : task ≠ .rejected) : Keeps call (setTask task call) :=
  ⟨rfl, rfl, rfl, rfl, fun queued => absurd queued notQueued,
    ⟨fun rejected => absurd rejected accepted, fun rejected => absurd rejected before⟩⟩

theorem keeps_removeTask (call : ServerCallState) : Keeps call (removeTask call) := by
  unfold removeTask
  split
  · rename_i queued
    exact ⟨rfl, rfl, rfl, rfl, nofun, by rw [queued]; exact ⟨nofun, nofun⟩⟩
  · exact ⟨rfl, rfl, rfl, rfl, id, Iff.rfl⟩

/-- The response of one round of the sweep is cached in order. -/
def SweepInOrder (service : RpcService) (entry : RequestId × Nat) : Prop :=
  ∀ call encoded, service.executing.find? entry.1 = some entry.2 →
    service.calls[entry.2]? = some call → call.deadline ≤ service.clock → call.phase = 0 →
    encodeRpcResponse (offlineResponse entry.1 .deadlineExceeded "deadline_while_executing")
      service.limits = .ok encoded → service.CacheInOrder encoded call.requestDigest

/-- Every response that the event caches gives up the oldest results. -/
def CachesInOrder (hash : List UInt8 → List UInt8) (service : RpcService) : Event → Prop
  | .frame frame replies =>
    (∀ request status detail encoded, frame.type = FrameType.rpcRequest.code →
      parseRpcRequest frame.payload service.limits = .ok request →
      service.refusal? request (hash frame.payload) replies = some (status, detail) →
      encodeRpcResponse (offlineResponse request.requestId status detail) service.limits =
        .ok encoded →
      service.CacheInOrder encoded (hash frame.payload)) ∧
    (∀ id serial call encoded, frame.type = FrameType.rpcCancel.code →
      parseRpcCancel frame.payload = .ok id → service.executing.find? id = some serial →
      service.calls[serial]? = some call → replies.cancelled = .requestedBeforeStart →
      encodeAnswer (finishResponse call (.made .cancelled "cancelled_before_start"))
        service.limits = some encoded →
      service.CacheInOrder encoded call.requestDigest)
  | .posted index _ => ∀ finish call encoded, service.posted[index]? = some finish →
      service.calls[finish.serial]? = some call → call.phase = 0 →
      encodeAnswer (finishResponse call finish.result) service.limits = some encoded →
      service.CacheInOrder encoded call.requestDigest
  | .prune replies => Machine.EachAllowed (sweepCall replies) SweepInOrder
      service.pruneClientDeadlines service.executing.entries
  | _ => True

namespace Walk

variable {relates : RpcService → RpcService → Prop} (walk : Walk hash strict relates)

include walk

theorem records {records : List RpcRecord} (plain : ∀ record ∈ records, record.Plain)
    (silent : completed records = []) (service : RpcService) :
    relates service (service.record records) :=
  walk.server (.quiet records plain (sameServer_record _ _) rfl)
    ⟨rfl, rfl, rfl, records, rfl, silent⟩

theorem record (record : RpcRecord) (plain : record.Plain) (silent : completed [record] = [])
    (service : RpcService) : relates service (service.record [record]) :=
  walk.records (forall_mem_singleton.mpr plain) silent service

theorem record_pair (first second : RpcRecord) (plainFirst : first.Plain)
    (plainSecond : second.Plain) (silent : completed [first, second] = []) :
    relates service (service.record [first, second]) :=
  walk.records (forall_mem_cons.mpr
    ⟨plainFirst, forall_mem_singleton.mpr plainSecond⟩) silent service

theorem move (move : Move hash strict service after) (clock : after.clock = service.clock)
    (pending : after.pending = service.pending) (retryable : after.retryable = service.retryable)
    (log : after.log = service.log) : relates service after :=
  walk.server move ⟨clock, pending, retryable, [], by rw [log, append_nil], rfl⟩

/-! ### The loss of the session -/

theorem abandon (service : RpcService) (serial : Nat) :
    relates service (service.abandon serial) := by
  unfold RpcService.abandon
  split
  · exact walk.refl _
  rename_i call found
  split
  · rename_i isOpen
    exact walk.server (.abandon serial call found isOpen)
      ⟨rfl, rfl, rfl, [.abandoned serial], rfl, rfl⟩
  · exact walk.refl _

theorem abandonAll (service : RpcService) : relates service (service.abandonAll entries) := by
  induction entries generalizing service with
  | nil => exact walk.refl service
  | cons head tail ih => exact walk.trans (walk.abandon service head.2) (ih _)

theorem handleSessionClosed (service : RpcService) :
    relates service service.handleSessionClosed := by
  unfold RpcService.handleSessionClosed
  refine walk.trans (walk.abandonAll service.executing.entries service) ?_
  have executing := abandonAll_executing service.executing.entries service
  generalize abandonedEq : service.abandonAll service.executing.entries = middle at *
  have emptied : Move hash strict middle { middle with executing := {} } := by
    have dropped : Move hash strict middle
        { middle with executing := middle.executing.filter fun _ _ => false } := by
      refine .drop _ fun id serial call found _ position isOpen => ?_
      rw [executing] at found
      subst abandonedEq
      exact (abandonAll_open position isOpen).2 (id, serial) (mem_entries_iff.mpr found)
        rfl
    rwa [filter_eq_empty fun _ _ => rfl] at dropped
  have lost : Move hash strict { middle with executing := {} }
      { middle.record [.sessionLost] with executing := {}, sessionOpen := false } :=
    .lose fun _ => rfl
  refine walk.trans (walk.move emptied rfl rfl rfl rfl) ?_
  exact walk.trans (walk.server lost ⟨rfl, rfl, rfl, [.sessionLost], rfl, rfl⟩) (walk.close _)

/-! ### Sending -/

/-- A frame of the client is taken quietly, refused, or loses the session. -/
theorem sendFrame (sent : RpcRecord) (plain : sent.Plain) (silent : completed [sent] = [])
    (service : RpcService) (reply : SendReply) :
    relates service (service.sendFrame sent reply).2 := by
  have recorded := walk.record sent plain silent service
  unfold RpcService.sendFrame
  split
  · exact walk.refl _
  split
  · exact recorded
  · exact walk.refl _
  · exact walk.trans recorded (walk.handleSessionClosed _)

theorem sendResponse (channelId : UInt32) (response : List UInt8) (service : RpcService) :
    relates service (service.sendResponse channelId response reply) := by
  have failed := walk.record .responseSendFailed trivial rfl service
  unfold RpcService.sendResponse RpcService.sendFrame
  cases isOpen : service.sessionOpen with
  | false => exact failed
  | true =>
    have respond : relates service (service.record [.responseSent channelId response]) :=
      walk.server (.respond channelId response isOpen)
        ⟨rfl, rfl, rfl, [.responseSent channelId response], rfl, rfl⟩
    cases reply with
    | accepted => exact respond
    | refused error => exact failed
    | lost => exact walk.trans respond (walk.handleSessionClosed _)

/-! ### Answers -/

/-- The execution of a request leaves the table once its phase has turned. -/
theorem erase (turned : service.Turned id) :
    relates service { service with executing := service.executing.erase id } := by
  refine walk.move (.drop _ fun other serial call found erased position => ?_) rfl rfl rfl rfl
  have same : other = id := by simpa using erased
  exact turned serial call (same ▸ found) position

theorem store (uncached : service.resultCache.find? id = none) (turned : service.Turned id)
    (inOrder : strict → service.CacheInOrder encoded (hash request)) :
    relates service (service.cacheResult id encoded (hash request) request) := by
  have stored : Move hash strict service _ := .store id encoded request uncached turned inOrder
  refine walk.server stored ?_
  rw [cacheResult_eq]
  exact ⟨rfl, rfl, rfl, [.terminal id request (hash request) encoded], rfl, rfl⟩

theorem answerOffline {status : StableStatus} {detail : String}
    (uncached : service.resultCache.find? id = none) (idle : service.executing.find? id = none)
    (inOrder : strict → ∀ encoded,
      encodeRpcResponse (offlineResponse id status detail) service.limits = .ok encoded →
      service.CacheInOrder encoded (hash request)) :
    relates service
      (service.answerOffline channelId id (hash request) request status detail reply) := by
  unfold RpcService.answerOffline
  refine walk.trans (walk.record (.refused id status detail) trivial rfl service) ?_
  dsimp only
  split
  · exact walk.record .responseSendFailed trivial rfl _
  rename_i encoded isEncoded
  refine walk.trans (walk.store uncached (fun serial call found => ?_)
    fun isStrict => inOrder isStrict encoded isEncoded) (walk.sendResponse ..)
  rw [show service.executing.find? id = some serial from found] at idle
  cases idle

section

variable (sound : Sound hash service) (found : service.calls[serial]? = some call)

include sound found

theorem answer {response : RpcResponseBody}
    (active : service.executing.find? call.requestId = some serial)
    (inOrder : strict → ∀ encoded, encodeAnswer response service.limits = some encoded →
      service.CacheInOrder encoded call.requestDigest) :
    relates service (service.answer serial call response reply) := by
  unfold RpcService.answer
  split
  · exact walk.record (.lateResult serial) trivial rfl service
  rename_i isOpen
  have isOpen : call.phase = 0 := Decidable.not_not.mp isOpen
  have turned := turned_of_active found active
  refine walk.trans (walk.server (.turn serial call found isOpen active)
    ⟨rfl, rfl, rfl, [.answered serial], rfl, rfl⟩) ?_
  dsimp only
  split
  · exact walk.erase turned
  rename_i encoded isEncoded
  have digest := sound.digest serial call found
  rw [digest] at inOrder ⊢
  refine walk.trans (walk.store ?_ turned fun isStrict => inOrder isStrict encoded isEncoded)
    (walk.trans (walk.erase ?_) (walk.sendResponse ..))
  · exact sound.uncached call.requestId serial call active found isOpen
  · rw [cacheResult_eq]
    exact turned

theorem finishServerCall {result : RpcHandlerResult} {handlerRan : Bool}
    (accepted : call.task ≠ .rejected) (inOrder : strict → call.phase = 0 → ∀ encoded,
      encodeAnswer (finishResponse call result) service.limits = some encoded →
      service.CacheInOrder encoded call.requestDigest) :
    relates service (service.finishServerCall serial result handlerRan reply) := by
  unfold RpcService.finishServerCall
  rw [found]
  dsimp only
  split
  · exact walk.record (.lateResult serial) trivial rfl service
  rename_i running
  have isOpen : call.phase = 0 := by
    by_contra turned
    simp [turned] at running
  have noted := walk.records (finishRecords_plain serial call result handlerRan)
    (by unfold finishRecords; split_ifs <;> rfl) service
  refine walk.trans noted (walk.answer (sound.of_same (sameServer_record _ _)) found ?_ ?_)
  · exact sound.active serial call found isOpen accepted
  · exact fun isStrict => inOrder isStrict isOpen

end

/-! ### Requests -/

theorem startServerCall {request : RpcRequestBody}
    (isStart : service.requestVerdict request (hash frame.payload) replies = .start)
    (inOrder : strict → ∀ status detail encoded,
      service.refusal? request (hash frame.payload) replies = some (status, detail) →
      encodeRpcResponse (offlineResponse request.requestId status detail) service.limits =
        .ok encoded → service.CacheInOrder encoded (hash frame.payload)) :
    relates service (service.startServerCall frame request (hash frame.payload) replies) := by
  obtain ⟨uncached, idle, room⟩ := requestVerdict_new isStart (.inl rfl)
  unfold refusal? at inOrder
  rw [isStart] at inOrder
  unfold RpcService.startServerCall
  split
  · rename_i unregistered
    exact walk.answerOffline uncached idle fun isStrict encoded =>
      inOrder isStrict _ _ encoded (if_pos unregistered)
  · rename_i registered
    split
    · rename_i rejected
      have appended : Move hash strict service { service with
          calls := service.calls ++
            [serverCall frame request (hash frame.payload) service.clock] } :=
        .reject _ rfl rfl
      refine walk.trans (walk.move appended rfl rfl rfl rfl)
        (walk.trans (walk.record (.dispatchRejected service.calls.length) trivial rfl _) ?_)
      refine walk.answerOffline uncached idle fun isStrict encoded isEncoded => ?_
      refine inOrder isStrict _ _ encoded ?_ isEncoded
      rw [if_neg registered, rejected]
    · exact walk.server (.start _ rfl rfl rfl uncached idle (room rfl))
        ⟨rfl, rfl, rfl, [.started service.calls.length], rfl, rfl⟩

theorem handleRequest (isRequest : frame.type = FrameType.rpcRequest.code)
    (inOrder : strict → service.CachesInOrder hash (.frame frame replies)) :
    relates service (service.handleRequest hash frame replies) := by
  unfold RpcService.handleRequest
  refine walk.trans (walk.record .requestReceived trivial rfl service) ?_
  dsimp only
  split
  · exact walk.record_pair .invalidRequest (.channelFailed frame.channelId) trivial trivial rfl
  rename_i request parsed
  have same : (service.record [.requestReceived]).requestVerdict request (hash frame.payload)
      replies = service.requestVerdict request (hash frame.payload) replies := rfl
  split
  · exact walk.trans (walk.record (.replayed request.requestId) trivial rfl _)
      (walk.sendResponse ..)
  · exact walk.record (.duplicate request.requestId) trivial rfl _
  · exact walk.record_pair (.conflicting request.requestId) (.channelFailed frame.channelId)
      trivial trivial rfl
  · rename_i status detail isRefuse
    obtain ⟨uncached, idle, -⟩ := requestVerdict_new isRefuse (.inr ⟨status, detail, rfl⟩)
    refine walk.answerOffline uncached idle fun isStrict encoded => ?_
    refine (inOrder isStrict).1 request status detail encoded isRequest parsed ?_
    unfold refusal?
    rw [← same, isRefuse]
  · rename_i isStart
    exact walk.startServerCall isStart fun isStrict status detail encoded =>
      (inOrder isStrict).1 request status detail encoded isRequest parsed

/-! ### Handler tasks -/

theorem removeTask (service : RpcService) (serial : Nat) :
    relates service (service.modifyCall serial RpcService.removeTask) := by
  cases found : service.calls[serial]? with
  | none =>
    have same : service.calls.modify serial RpcService.removeTask = service.calls :=
      modify_eq_self (getElem?_eq_none_iff.mp found)
    unfold modifyCall
    rw [same]
    exact walk.refl service
  | some call =>
    exact walk.move (.adjust serial call RpcService.removeTask found (keeps_removeTask call))
      rfl rfl rfl rfl

theorem finishTask (found : service.calls[serial]? = some call)
    (keeps : Keeps call (change call)) (accepted : call.task ≠ .rejected)
    (result : RpcHandlerResult) (handlerRan : Bool) :
    relates service ((service.modifyCall serial change).postFinish serial result handlerRan) := by
  have posted : Move hash strict (service.modifyCall serial change)
      ((service.modifyCall serial change).postFinish serial result handlerRan) :=
    .post ⟨serial, result, handlerRan⟩ (change call) (calls_modifyCall_self change found)
      fun rejected => accepted (keeps.rejected.mp rejected)
  exact walk.trans (walk.move (.adjust serial call change found keeps) rfl rfl rfl rfl)
    (walk.move posted rfl rfl rfl rfl)

theorem taskStart (stop : Bool) : relates service (service.taskStart serial stop) := by
  unfold RpcService.taskStart
  split
  · exact walk.refl service
  rename_i call found
  split
  · exact walk.refl service
  rename_i isQueued
  have queued : call.task = .queued := Decidable.not_not.mp isQueued
  have accepted : call.task ≠ .rejected := by
    rw [queued]
    nofun
  have keeps : Keeps call (setTask .finished call) := keeps_setTask accepted nofun nofun
  split
  · exact walk.move (.adjust serial call _ found keeps) rfl rfl rfl rfl
  split
  · exact walk.finishTask found keeps accepted _ _
  split
  · exact walk.finishTask found keeps accepted _ _
  · exact walk.server (.run serial call found queued)
      ⟨rfl, rfl, rfl, [.handlerRan serial], rfl, rfl⟩

theorem taskEnd (result : RpcHandlerResult) (threw : Bool) :
    relates service (service.taskEnd serial result threw) := by
  unfold RpcService.taskEnd
  split
  · exact walk.refl service
  rename_i call found
  split
  · exact walk.refl service
  rename_i isRunning
  have accepted : call.task ≠ .rejected := by
    rw [Decidable.not_not.mp isRunning]
    nofun
  split
  · refine walk.finishTask found ?_ accepted _ _
    exact ⟨rfl, rfl, rfl, rfl, nofun, nofun, fun rejected => absurd rejected accepted⟩
  · have keeps : Keeps call (setTask .finished call) := keeps_setTask accepted nofun nofun
    exact walk.finishTask found keeps accepted _ _

section

variable (sound : Sound hash service)

include sound

theorem runPosted {index : Nat}
    (inOrder : strict → service.CachesInOrder hash (.posted index reply)) :
    relates service (service.runPosted index reply) := by
  unfold RpcService.runPosted
  split
  · exact walk.refl service
  rename_i finish isPosted
  obtain ⟨call, found, accepted⟩ := sound.posted finish (mem_of_getElem? isPosted)
  have removed : Move hash strict service
      { service with posted := service.posted.eraseIdx index } := .unpost index
  refine walk.trans (walk.move removed rfl rfl rfl rfl)
    (walk.finishServerCall (sound.move removed) found accepted ?_)
  exact fun isStrict isOpen encoded => inOrder isStrict finish call encoded isPosted found isOpen

/-! ### Cancellation and deadlines of executions -/

theorem handleCancel (isCancel : frame.type = FrameType.rpcCancel.code)
    (inOrder : strict → service.CachesInOrder hash (.frame frame replies)) :
    relates service (service.handleCancel frame replies) := by
  unfold RpcService.handleCancel
  split
  · exact walk.record .invalidRequest trivial rfl service
  rename_i id parsed
  split
  · exact walk.refl service
  rename_i serial executing
  obtain ⟨call, found, -, accepted⟩ := sound.known id serial executing
  dsimp only
  generalize changeEq : (fun call : ServerCallState => { call with cancelRequested := true }) =
    change
  have keeps : Keeps call (change call) := by
    subst changeEq
    exact ⟨rfl, rfl, rfl, rfl, fun queued => queued, Iff.rfl⟩
  have flagged : Move hash strict service (service.modifyCall serial change) :=
    .adjust serial call change found keeps
  refine walk.trans (walk.move flagged rfl rfl rfl rfl) ?_
  split
  · exact walk.refl _
  split
  · rename_i before
    have foundFlagged := calls_modifyCall_self change found
    have keepsRemoved := keeps_removeTask (change call)
    have removed : Move hash strict (service.modifyCall serial change)
        ((service.modifyCall serial change).modifyCall serial RpcService.removeTask) :=
      .adjust serial (change call) RpcService.removeTask foundFlagged keepsRemoved
    refine walk.trans (walk.move removed rfl rfl rfl rfl)
      (walk.finishServerCall ((sound.move flagged).move removed)
        (calls_modifyCall_self RpcService.removeTask foundFlagged) ?_ ?_)
    · exact fun rejected => accepted (keeps.rejected.mp (keepsRemoved.rejected.mp rejected))
    · intro isStrict _ encoded isEncoded
      have sameResponse : finishResponse (RpcService.removeTask (change call))
          (.made .cancelled "cancelled_before_start") =
          finishResponse call (.made .cancelled "cancelled_before_start") := by
        unfold finishResponse
        rw [keepsRemoved.requestId, keeps.requestId]
      rw [sameResponse] at isEncoded
      rw [keepsRemoved.requestDigest, keeps.requestDigest]
      exact (inOrder isStrict).2 id serial call encoded isCancel parsed executing found before
        isEncoded
  · exact walk.refl _

theorem sweepCall {replies : RequestId → SendReply}
    {entry : RequestId × Nat} (inOrder : strict → service.SweepInOrder entry) :
    relates service (service.sweepCall replies entry) := by
  unfold RpcService.sweepCall
  split
  · exact walk.refl service
  rename_i isThere
  have executing := Decidable.not_not.mp isThere
  split
  · exact walk.refl service
  rename_i call found
  obtain ⟨known, position, sameId, -⟩ := sound.known _ _ executing
  cases found.symm.trans position
  have active : service.executing.find? call.requestId = some entry.2 := sameId ▸ executing
  split
  · rename_i due
    have turned := turned_of_active found active
    refine walk.trans (walk.server (.turn entry.2 call found due.2 active)
      ⟨rfl, rfl, rfl, [.answered entry.2], rfl, rfl⟩) ?_
    dsimp only
    have noted := walk.record (.handlerDeadlineExceeded entry.2) trivial rfl
      ((service.modifyCall entry.2 turnPhase).record [.answered entry.2])
    have joined : ((service.modifyCall entry.2 turnPhase).record [.answered entry.2]).record
        [.handlerDeadlineExceeded entry.2] = (service.modifyCall entry.2 turnPhase).record
          [.answered entry.2, .handlerDeadlineExceeded entry.2] := by
      simp [RpcService.record]
    rw [joined] at noted
    refine walk.trans noted ?_
    split
    · exact walk.refl _
    rename_i encoded isEncoded
    have digest := sound.digest _ _ found
    rw [digest]
    refine walk.trans (walk.store ?_ (sameId ▸ turned) fun isStrict => ?_) (walk.sendResponse ..)
    · exact sound.uncached _ _ call executing found due.2
    · exact digest ▸ inOrder isStrict call encoded executing found due.1 due.2 isEncoded
  · exact walk.refl service

theorem sweep {replies : RequestId → SendReply} (inOrder : strict →
      Machine.EachAllowed (RpcService.sweepCall replies) SweepInOrder service entries) :
    relates service (entries.foldl (RpcService.sweepCall replies) service) := by
  induction entries generalizing service with
  | nil => exact walk.refl service
  | cons entry entries ih =>
    have moved : Moves hash strict service (service.sweepCall replies entry) :=
      walk_moves.sweepCall sound fun isStrict => (inOrder isStrict).1
    exact walk.trans (walk.sweepCall sound fun isStrict => (inOrder isStrict).1)
      (ih (sound.moves moved) fun isStrict => (inOrder isStrict).2)

end

theorem dropTerminal (service : RpcService) : relates service service.dropTerminal := by
  refine walk.move (.drop _ fun id serial call _ gone found isOpen => ?_) rfl rfl rfl rfl
  unfold executingStill at gone
  rw [found] at gone
  simp [isOpen] at gone

/-! ### Events -/

theorem handleResponse (service : RpcService) (frame : Frame) :
    relates service (service.handleResponse frame) := by
  unfold RpcService.handleResponse
  split
  · exact walk.record .invalidRequest trivial rfl service
  split
  · exact walk.record (.responseUnknown _) trivial rfl service
  · exact walk.complete ..

theorem cancel (service : RpcService) : relates service (service.cancel id reply).2 := by
  unfold RpcService.cancel
  split
  · exact walk.refl service
  split
  · exact walk.complete ..
  · exact walk.trans (walk.sendFrame (.cancelSent id) trivial rfl service reply)
      (walk.complete ..)

theorem handleFrame (sound : Sound hash service)
    (inOrder : strict → service.CachesInOrder hash (.frame frame replies)) :
    relates service (service.handleFrame hash frame replies) := by
  unfold RpcService.handleFrame admitFrame
  split
  · exact walk.refl service
  rename_i admitted
  split at admitted
  · cases admitted
  split at admitted
  · rename_i isRequest
    split at admitted
    · cases admitted
    · cases admitted
      exact walk.handleRequest isRequest inOrder
  · split at admitted
    · rename_i isOther
      split at admitted
      · cases admitted
      split at admitted
      · cases admitted
        exact walk.handleResponse ..
      · rename_i notResponse
        cases admitted
        exact walk.handleCancel sound (isOther.resolve_left notResponse) inOrder
    · cases admitted

theorem step (sound : Sound hash service) {event : Event}
    (inOrder : strict → service.CachesInOrder hash event) :
    relates service (service.step hash event) := by
  cases event with
  | advance milliseconds => exact walk.advance milliseconds
  | frame frame replies => exact walk.handleFrame sound inOrder
  | taskStart serial stop => exact walk.taskStart stop
  | taskEnd serial result threw => exact walk.taskEnd result threw
  | taskRemoved serial => exact walk.removeTask service serial
  | posted index reply => exact walk.runPosted sound inOrder
  | prune replies =>
    have pruned : Moves hash strict service service.pruneClientDeadlines := walk_moves.prune service
    obtain ⟨-, -, same, -⟩ := quiet_pruneClientDeadlines
    refine walk.trans (walk.prune service) (walk.trans ?_ (walk.dropTerminal _))
    refine walk.sweep _ (sound.moves pruned) fun isStrict => ?_
    rw [same.executing]
    exact inOrder isStrict
  | cancel id reply => exact walk.cancel service
  | sessionClosed => exact walk.handleSessionClosed service

end Walk

/-! ### Calls of the client -/

theorem moves_submitCall (request : RpcRequestBody) (idempotent retryOnReconnect : Bool)
    (completion : Nat) :
    Moves hash strict service
      (service.submitCall request idempotent retryOnReconnect completion reply).2 := by
  have rejects (error : Error) (service : RpcService) : Moves hash strict service
      ((service.record [.callRejected request.requestId]).complete completion (.error error)) :=
    ((quiet_record (.callRejected request.requestId) trivial service).trans
      (quiet_complete ..)).moves
  unfold submitCall
  dsimp only
  split
  · exact rejects ..
  rename_i encoded isEncoded
  split
  · exact rejects ..
  split
  · exact rejects ..
  have sent : Moves hash strict service
      (service.sendFrame (.requestSent request.requestId encoded) reply).2 :=
    walk_moves.sendFrame (.requestSent request.requestId encoded) trivial rfl service reply
  split
  · rename_i error after isSent
    rw [isSent] at sent
    exact sent.trans (rejects ..)
  · rename_i after isSent
    rw [isSent] at sent
    refine sent.trans (Quiet.moves ?_)
    exact ⟨[.callStarted request.requestId],
      fun _ member => mem_singleton.mp member ▸ trivial,
      ⟨rfl, rfl, rfl, rfl, rfl, rfl, rfl, rfl, rfl⟩, rfl⟩

theorem moves_call (arguments : CallArguments) (completion : Option Nat) :
    Moves hash strict service (service.call arguments completion reply).2 := by
  unfold call
  split
  · exact .refl
  split
  · exact .refl
  · split
    · exact .refl
    · exact moves_submitCall ..

theorem moves_resubmit (call : RetryableCall) :
    Moves hash strict service (service.resubmit call reply).2 := by
  unfold resubmit
  split
  · exact .refl
  · split
    · exact (quiet_complete ..).moves
    · exact moves_submitCall ..

/-! ### Runs -/

/-- A service that was attached and has done nothing yet. -/
def fresh (config : RpcServiceConfig) (limits : Limits) (channelId : UInt32) (clock : Nat) :
    RpcService :=
  { config := config, limits := limits, attached := true, channelId := channelId, clock := clock }

theorem attach_eq {limits : Limits} {clock : Nat}
    (attached : attach true (.ok channelId) { config := config, limits := limits, clock := clock } =
      .ok service) :
    configInvalid config = false ∧ service = fresh config limits channelId clock := by
  unfold attach at attached
  simp only [Bool.false_eq_true, if_false, Bool.not_true] at attached
  split at attached
  · cases attached
  · rename_i valid
    cases attached
    exact ⟨Bool.eq_false_iff.mpr valid, rfl⟩

theorem initial_eq (initial : Initial service) :
    ∃ config limits channelId clock, configInvalid config = false ∧
      service = fresh config limits channelId clock := by
  obtain ⟨config, limits, channelId, clock, attached⟩ := initial
  exact ⟨config, limits, channelId, clock, attach_eq attached⟩

end RpcService

namespace RpcOwner

open RpcService

variable {hash : List UInt8 → List UInt8} {strict : Prop} {owner : RpcOwner}
  {allowed : RpcOwner → Event → Prop}

/-- Every response that the event caches gives up the oldest results. -/
def CachesInOrder (hash : List UInt8 → List UInt8) (owner : RpcOwner) : Event → Prop
  | .service event => owner.service.CachesInOrder hash event
  | _ => True

theorem step_moves (sound : RpcService.Sound hash owner.service) {event : Event}
    (inOrder : strict → owner.CachesInOrder hash event) :
    RpcService.Moves hash strict owner.service (owner.step hash event).service ∨
      (owner.step hash event).service.Initial := by
  cases event with
  | service event => exact .inl (walk_moves.step sound inOrder)
  | call arguments reply => exact .inl (moves_call ..)
  | take =>
    refine .inl (Quiet.moves ?_)
    exact quiet_client ..
  | resubmit index reply =>
    refine .inl ?_
    cases found : owner.taken[index]? with
    | none =>
      simp only [step, found]
      exact .refl
    | some call =>
      simp only [step, found]
      exact moves_resubmit ..
  | renew config limits channelId =>
    show RpcService.Moves hash strict owner.service
      (owner.renew config limits channelId).service ∨ _
    unfold renew
    split
    · exact .inl .refl
    rename_i service attached
    refine .inr ?_
    show (owner.renew config limits channelId).service.Initial
    unfold renew
    rw [attached]
    exact ⟨config, limits, channelId, owner.service.clock, attached⟩

section

variable (run : Run hash allowed owner)

include run

/-- A property of new services that moves keep holds of the service throughout. -/
theorem invariant {property : RpcService → Prop}
    (inOrder : strict → ∀ owner event, allowed owner event → owner.CachesInOrder hash event)
    (start : ∀ service, service.Initial → property service)
    (keep : ∀ service after, RpcService.Sound hash service → property service →
      Move hash strict service after → property after) :
    RpcService.Sound hash owner.service ∧ property owner.service := by
  have moved {service after : RpcService} (moves : RpcService.Moves hash strict service after)
      (holds : RpcService.Sound hash service ∧ property service) :
      RpcService.Sound hash after ∧ property after := by
    induction moves with
    | refl => exact holds
    | tail _ move ih => exact ⟨ih.1.move move, keep _ _ ih.1 ih.2 move⟩
  have fresh (service : RpcService) (initial : service.Initial) :
      RpcService.Sound hash service ∧ property service :=
    by
      refine ⟨?_, start service initial⟩
      obtain ⟨config, limits, channelId, clock, -, rfl⟩ := initial_eq initial
      exact ⟨nofun, nofun, nofun, nofun, nofun, Nat.zero_le _⟩
  induction run with
  | start isInitial =>
    obtain ⟨service, initial, rfl⟩ := isInitial
    exact fresh service initial
  | next event _ ok ih =>
    rcases step_moves ih.1 fun isStrict => inOrder isStrict _ event ok with moves | initial
    · exact moved moves ih
    · exact fresh _ initial

theorem sound_run :
    RpcService.Sound hash owner.service :=
  (invariant run (nofun : False → _) (fun _ _ => trivial) fun _ _ _ _ _ => trivial).1

theorem attached_run : owner.service.attached = true := by
  have start (service : RpcService) (initial : service.Initial) : service.attached = true := by
    obtain ⟨config, limits, channelId, clock, -, rfl⟩ := initial_eq initial
    rfl
  refine (invariant run (nofun : False → _) start fun _ _ _ attached move => ?_).2
  cases move with
  | quiet records plain same log => exact same.attached.trans attached
  | store id encoded request uncached turned inOrder =>
    rw [cacheResult_eq]
    exact attached
  | _ => exact attached

end

end RpcOwner

end Heyaki
