/-
Purpose: an execution ends once, runs once and is silent after the session is lost.

The phase of an execution counts the times it turned, and a task that is still
queued has not run.  Both are kept by every move.

Main exports: `SingleTerminal`, `rpc_single_terminal`
-/
import Heyaki.Proofs.RpcMoves

namespace Heyaki

open Foundation

def RpcRecord.turns (serial : Nat) : RpcRecord → Bool
  | .answered other | .abandoned other => other == serial
  | _ => false

def RpcRecord.runs (serial : Nat) : RpcRecord → Bool
  | .handlerRan other => other == serial
  | _ => false

namespace RpcService

def turns (serial : Nat) (log : List RpcRecord) : Nat := log.countP (·.turns serial)

def runs (serial : Nat) (log : List RpcRecord) : Nat := log.countP (·.runs serial)

/-- Each execution is marked at most once, and not before it is used. -/
def Once (marks : Nat → RpcRecord → Bool) (unused : ServerCallState → Prop)
    (service : RpcService) : Prop :=
  ∀ serial, service.log.countP (marks serial) ≤ 1 ∧
    ((∀ call, service.calls[serial]? = some call → unused call) →
      service.log.countP (marks serial) = 0)

/-- Where the session is lost, nothing is sent any more and the executions that
were started before have ended. -/
def SilentAfterLoss (service : RpcService) (before after : List RpcRecord) : Prop :=
  (∀ channelId response, .responseSent channelId response ∉ after) ∧
  ∀ serial, .started serial ∈ before → .answered serial ∉ after ∧
    ∀ call, service.calls[serial]? = some call → call.phase ≠ 0

structure Single (service : RpcService) : Prop where
  turned : Once RpcRecord.turns (·.phase = 0) service
  ran : Once RpcRecord.runs (·.task = .queued) service
  started : ∀ serial, .started serial ∈ service.log →
    ∃ call, service.calls[serial]? = some call ∧ call.task ≠ .rejected
  lost : .sessionLost ∈ service.log → service.sessionOpen = false
  silent : ∀ before after, service.log = before ++ .sessionLost :: after →
    service.SilentAfterLoss before after

variable {hash : List UInt8 → List UInt8} {strict : Prop} {service after : RpcService}
  {serial : Nat} {record : RpcRecord}

section Once

variable {marks : Nat → RpcRecord → Bool} {unused : ServerCallState → Prop}

theorem Once.keep {records : List RpcRecord} (once : Once marks unused service)
    (kept : ∀ (serial : Nat) (call : ServerCallState), service.calls[serial]? = some call →
      ∃ now, after.calls[serial]? = some now ∧ (unused now → unused call))
    (log : after.log = service.log ++ records)
    (none : ∀ record ∈ records, ∀ serial, marks serial record = false) :
    Once marks unused after := by
  intro serial
  have unmarked : records.countP (marks serial) = 0 :=
    List.countP_eq_zero.mpr fun record member => by
      rw [none record member]
      nofun
  rw [log, List.countP_append, unmarked, Nat.add_zero]
  refine ⟨(once serial).1, fun allUnused => (once serial).2 fun call found => ?_⟩
  obtain ⟨now, position, back⟩ := kept serial call found
  exact back (allUnused now position)

theorem Once.mark (once : Once marks unused service) {call : ServerCallState}
    {change : ServerCallState → ServerCallState}
    (found : service.calls[serial]? = some call) (isUnused : unused call)
    (used : ¬ unused (change call)) (isMark : ∀ other, marks other record = (serial == other)) :
    Once marks unused ((service.modifyCall serial change).record [record]) := by
  intro other
  show (service.log ++ [record]).countP (marks other) ≤ 1 ∧
    (_ → (service.log ++ [record]).countP (marks other) = 0)
  rw [List.countP_append, List.countP_singleton, isMark]
  by_cases same : serial = other
  · subst same
    have unmarked : service.log.countP (marks serial) = 0 := (once serial).2 fun now position => by
      cases found.symm.trans position
      exact isUnused
    refine ⟨by simp [unmarked], fun allUnused => ?_⟩
    exact absurd (allUnused _ (calls_modifyCall_self change found)) used
  · rw [if_neg (by simpa using same), Nat.add_zero]
    refine ⟨(once other).1, fun allUnused => (once other).2 fun now position => ?_⟩
    refine allUnused now ?_
    show (service.modifyCall serial change).calls[other]? = some now
    rw [calls_modifyCall, if_neg same]
    exact position

end Once

/-! ### Calls and records that a move keeps -/

/-- Executions are only appended, are not reopened and do not return to the queue. -/
def CallsKept (service after : RpcService) : Prop :=
  ∀ (serial : Nat) (call : ServerCallState), service.calls[serial]? = some call →
    ∃ now, after.calls[serial]? = some now ∧ (now.phase = 0 → call.phase = 0) ∧
      (now.task = .queued → call.task = .queued) ∧
      (now.task = .rejected → call.task = .rejected)

theorem callsKept_of_eq (calls : after.calls = service.calls) : CallsKept service after :=
  fun _ call found => ⟨call, calls ▸ found, id, id, id⟩

theorem callsKept_append {call : ServerCallState} (calls : after.calls = service.calls ++ [call]) :
    CallsKept service after := by
  intro serial other found
  refine ⟨other, ?_, id, id, id⟩
  rw [calls, List.getElem?_append_left (List.getElem?_eq_some_iff.mp found).1]
  exact found

theorem callsKept_modify {call : ServerCallState}
    (change : ServerCallState → ServerCallState) (found : service.calls[serial]? = some call)
    (phase : (change call).phase = 0 → call.phase = 0)
    (queued : (change call).task = .queued → call.task = .queued)
    (rejected : (change call).task = .rejected → call.task = .rejected) :
    CallsKept service (service.modifyCall serial change) := by
  intro other before position
  rw [calls_modifyCall]
  split
  · rename_i same
    subst same
    cases found.symm.trans position
    exact ⟨change call, by rw [found]; rfl, phase, queued, rejected⟩
  · exact ⟨before, position, id, id, id⟩

theorem turns_plain (plain : record.Plain) (serial : Nat) : record.turns serial = false := by
  unfold RpcRecord.turns
  split
  · exact plain.elim
  · exact plain.elim
  · rfl

theorem runs_plain (plain : record.Plain) (serial : Nat) : record.runs serial = false := by
  unfold RpcRecord.runs
  split
  · exact plain.elim
  · rfl

namespace Single

variable {call : ServerCallState}

/-! ### The parts of the invariant -/

variable {records : List RpcRecord}

section

variable (single : service.Single)

include single

section

variable (kept : CallsKept service after) (log : after.log = service.log ++ records)

include kept log

theorem turned_keep (none : ∀ record ∈ records, ∀ serial, record.turns serial = false) :
    Once RpcRecord.turns (·.phase = 0) after := by
  refine single.turned.keep (fun serial call found => ?_) log none
  obtain ⟨now, position, phase, -, -⟩ := kept serial call found
  exact ⟨now, position, phase⟩

theorem ran_keep (none : ∀ record ∈ records, ∀ serial, record.runs serial = false) :
    Once RpcRecord.runs (·.task = .queued) after := by
  refine single.ran.keep (fun serial call found => ?_) log none
  obtain ⟨now, position, -, queued, -⟩ := kept serial call found
  exact ⟨now, position, queued⟩

theorem started_keep (new : ∀ serial, .started serial ∈ records →
      ∃ call, after.calls[serial]? = some call ∧ call.task ≠ .rejected)
    (serial : Nat) (member : .started serial ∈ after.log) :
    ∃ call, after.calls[serial]? = some call ∧ call.task ≠ .rejected := by
  rw [log] at member
  rcases List.mem_append.mp member with old | isNew
  · obtain ⟨call, found, accepted⟩ := single.started serial old
    obtain ⟨now, position, -, -, rejected⟩ := kept serial call found
    exact ⟨now, position, fun isRejected => accepted (rejected isRejected)⟩
  · exact new serial isNew

/-- A lost session stays silent when what is new is neither a response sent while
it is lost nor the answer of an execution that has ended. -/
theorem silent_keep (noLoss : .sessionLost ∉ records)
    (responses : ∀ channelId response, .responseSent channelId response ∈ records →
      service.sessionOpen = true) (answers : ∀ serial, .answered serial ∈ records →
      ∃ call, service.calls[serial]? = some call ∧ call.phase = 0)
    (before rest : List RpcRecord) (split : after.log = before ++ .sessionLost :: rest) :
    after.SilentAfterLoss before rest := by
  rw [log] at split
  obtain ⟨tail, old, rfl⟩ := History.split_append_of_not_mem split noLoss
  obtain ⟨noResponse, ended⟩ := single.silent before tail old
  have closed : service.sessionOpen = false :=
    single.lost (old ▸ List.mem_append_right before (.head tail))
  refine ⟨fun channelId response member => ?_, fun serial isStarted => ?_⟩
  · rcases List.mem_append.mp member with early | new
    · exact noResponse channelId response early
    · rw [responses channelId response new] at closed
      cases closed
  · obtain ⟨unanswered, turned⟩ := ended serial isStarted
    refine ⟨fun member => ?_, fun now position isOpen => ?_⟩
    · rcases List.mem_append.mp member with early | new
      · exact unanswered early
      · obtain ⟨call, found, isOpen⟩ := answers serial new
        exact turned call found isOpen
    · obtain ⟨call, found, -⟩ :=
        single.started serial (old ▸ List.mem_append_left _ isStarted)
      obtain ⟨same, samePosition, phase, -, -⟩ := kept serial call found
      cases position.symm.trans samePosition
      exact turned call found (phase isOpen)

end

theorem lost_keep (log : after.log = service.log ++ records) (noLoss : .sessionLost ∉ records)
    (sessionOpen : after.sessionOpen = service.sessionOpen) (member : .sessionLost ∈ after.log) :
    after.sessionOpen = false := by
  rw [log] at member
  rw [sessionOpen]
  exact single.lost ((List.mem_append.mp member).resolve_right noLoss)

/-! ### The moves -/

theorem plain (isPlain : ∀ record ∈ records, record.Plain) (kept : CallsKept service after)
    (log : after.log = service.log ++ records)
    (sessionOpen : after.sessionOpen = service.sessionOpen) : after.Single where
  turned := single.turned_keep kept log fun record member => turns_plain (isPlain record member)
  ran := single.ran_keep kept log fun record member => runs_plain (isPlain record member)
  started := single.started_keep kept log fun _ member => (isPlain _ member).elim
  lost := single.lost_keep log (fun member => isPlain _ member) sessionOpen
  silent := single.silent_keep kept log (fun member => isPlain _ member)
    (fun _ _ member => (isPlain _ member).elim) fun _ member => (isPlain _ member).elim

theorem unlogged (kept : CallsKept service after) (log : after.log = service.log)
    (sessionOpen : after.sessionOpen = service.sessionOpen) : after.Single := by
  have same : after.log = service.log ++ [] := by
    rw [log, List.append_nil]
  exact single.plain (nofun : ∀ record ∈ ([] : List RpcRecord), record.Plain) kept same sessionOpen

theorem start (queued : call.task = .queued) (calls : after.calls = service.calls ++ [call])
    (log : after.log = service.log ++ [.started service.calls.length])
    (sessionOpen : after.sessionOpen = service.sessionOpen) : after.Single where
  turned := single.turned_keep (callsKept_append calls) log (by simp [RpcRecord.turns])
  ran := single.ran_keep (callsKept_append calls) log (by simp [RpcRecord.runs])
  started := by
    refine single.started_keep (callsKept_append calls) log fun serial member => ?_
    cases List.mem_singleton.mp member
    exact ⟨call, calls ▸ List.getElem?_concat_length, queued ▸ nofun⟩
  lost := single.lost_keep log (by simp) sessionOpen
  silent := single.silent_keep (callsKept_append calls) log (by simp) (by simp) (by simp)

theorem respond (channelId : UInt32) (response : List UInt8) (isOpen : service.sessionOpen = true) :
    (service.record [.responseSent channelId response]).Single := by
  have kept : CallsKept service (service.record [.responseSent channelId response]) :=
    callsKept_of_eq rfl
  exact {
    turned := single.turned_keep kept rfl (by simp [RpcRecord.turns])
    ran := single.ran_keep kept rfl (by simp [RpcRecord.runs])
    started := single.started_keep kept rfl (by simp)
    lost := single.lost_keep rfl (by simp) rfl
    silent := single.silent_keep kept rfl (by simp) (fun _ _ _ => isOpen) (by simp) }

theorem store (id : RequestId) (encoded digest request : List UInt8) :
    (service.cacheResult id encoded digest request).Single := by
  have kept : CallsKept service (service.cacheResult id encoded digest request) :=
    callsKept_of_eq (by rw [cacheResult_eq])
  have log : (service.cacheResult id encoded digest request).log =
      service.log ++ [.terminal id request digest encoded] := by
    rw [cacheResult_eq]
  have sessionOpen : (service.cacheResult id encoded digest request).sessionOpen =
      service.sessionOpen := by
    rw [cacheResult_eq]
  exact {
    turned := single.turned_keep kept log (by simp [RpcRecord.turns])
    ran := single.ran_keep kept log (by simp [RpcRecord.runs])
    started := single.started_keep kept log (by simp)
    lost := single.lost_keep log (by simp) sessionOpen
    silent := single.silent_keep kept log (by simp) (by simp) (by simp) }

theorem run (found : service.calls[serial]? = some call) (queued : call.task = .queued) :
    ((service.modifyCall serial (setTask .running)).record [.handlerRan serial]).Single := by
  have kept : CallsKept service
      ((service.modifyCall serial (setTask .running)).record [.handlerRan serial]) :=
    callsKept_modify (setTask .running) found id nofun nofun
  exact {
    turned := single.turned_keep kept rfl (by simp [RpcRecord.turns])
    ran := single.ran.mark found queued nofun fun _ => rfl
    started := single.started_keep kept rfl (by simp)
    lost := single.lost_keep rfl (by simp) rfl
    silent := single.silent_keep kept rfl (by simp) (by simp) (by simp) }

theorem turn (found : service.calls[serial]? = some call)
    (isOpen : call.phase = 0) (isTurn : record = .answered serial ∨ record = .abandoned serial) :
    ((service.modifyCall serial turnPhase).record [record]).Single := by
  have kept : CallsKept service ((service.modifyCall serial turnPhase).record [record]) :=
    callsKept_modify turnPhase found nofun id id
  refine ⟨single.turned.mark found isOpen nofun ?_, single.ran_keep kept rfl ?_,
    single.started_keep kept rfl ?_, single.lost_keep rfl ?_ rfl,
    single.silent_keep kept rfl ?_ ?_ ?_⟩
  · intro other
    rcases isTurn with rfl | rfl <;> rfl
  · rcases isTurn with rfl | rfl <;> simp [RpcRecord.runs]
  · rcases isTurn with rfl | rfl <;> simp
  · rcases isTurn with rfl | rfl <;> simp
  · rcases isTurn with rfl | rfl <;> simp
  · rcases isTurn with rfl | rfl <;> simp
  · intro other member
    rcases isTurn with rfl | rfl
    · cases List.mem_singleton.mp member
      exact ⟨call, found, isOpen⟩
    · cases List.mem_singleton.mp member

/-- With no execution left in the table, everything that was started has ended. -/
theorem lose (sound : Sound hash service) (idle : ∀ id, service.executing.find? id = none) :
    Single { service.record [.sessionLost] with sessionOpen := false } := by
  have kept : CallsKept service { service.record [.sessionLost] with sessionOpen := false } :=
    callsKept_of_eq rfl
  refine ⟨single.turned_keep kept rfl (by simp [RpcRecord.turns]),
    single.ran_keep kept rfl (by simp [RpcRecord.runs]), single.started_keep kept rfl (by simp),
    fun _ => rfl, ?_⟩
  intro before rest split
  have ended (serial : Nat) (isStarted : .started serial ∈ service.log) (call : ServerCallState)
      (found : service.calls[serial]? = some call) : call.phase ≠ 0 := by
    intro isOpen
    obtain ⟨same, position, accepted⟩ := single.started serial isStarted
    cases found.symm.trans position
    have active := sound.active serial call found isOpen accepted
    rw [idle] at active
    cases active
  rcases History.split_append split with ⟨tail, old, rfl⟩ | ⟨front, rfl, new⟩
  · obtain ⟨noResponse, earlier⟩ := single.silent before tail old
    refine ⟨fun channelId response member => ?_, fun serial isStarted => ⟨fun member => ?_, ?_⟩⟩
    · exact (List.mem_append.mp member).elim (noResponse channelId response) (by simp)
    · exact (List.mem_append.mp member).elim (earlier serial isStarted).1 (by simp)
    · exact (earlier serial isStarted).2
  · cases front with
    | nil =>
      cases new
      refine ⟨nofun, fun serial isStarted => ⟨nofun, ?_⟩⟩
      exact ended serial (by simpa using isStarted)
    | cons head tail => simp at new

end

theorem move (single : service.Single) (sound : Sound hash service)
    (move : Move hash strict service after) : after.Single := by
  cases move with
  | quiet records plain same log =>
    exact single.plain plain (callsKept_of_eq same.calls) log same.sessionOpen
  | reject call rejected digest => exact single.unlogged (callsKept_append rfl) rfl rfl
  | start call queued fresh digest uncached idle room => exact single.start queued rfl rfl rfl
  | adjust serial call change found keeps =>
    refine single.unlogged (callsKept_modify change found ?_ keeps.queued keeps.rejected.mp) rfl rfl
    exact fun isOpen => keeps.phase ▸ isOpen
  | run serial call found queued => exact single.run found queued
  | post finish call found accepted | unpost index | drop keep turned =>
    exact single.unlogged (callsKept_of_eq rfl) rfl rfl
  | turn serial call found isOpen active => exact single.turn found isOpen (.inl rfl)
  | abandon serial call found isOpen => exact single.turn found isOpen (.inr rfl)
  | store id encoded request uncached turned inOrder => exact single.store ..
  | respond channelId response isOpen => exact single.respond channelId response isOpen
  | lose idle => exact single.lose sound idle

end Single

theorem single_initial (initial : Initial service) : service.Single := by
  obtain ⟨config, limits, channelId, clock, -, rfl⟩ := initial_eq initial
  refine ⟨fun _ => ⟨Nat.zero_le 1, fun _ => rfl⟩, fun _ => ⟨Nat.zero_le 1, fun _ => rfl⟩, nofun,
    nofun, ?_⟩
  intro before rest split
  cases before <;> cases split

/-! ### The contract -/

/-- What holds of the executions of a service. -/
structure SingleTerminal (service : RpcService) : Prop where
  /-- The phase of an execution turns at most once: at most one terminal response
  is computed, and none once the session has been lost. -/
  once : ∀ serial, turns serial service.log ≤ 1
  /-- The handler of an execution runs at most once. -/
  ran : ∀ serial, runs serial service.log ≤ 1
  /-- Behind the loss of the session no response is sent, and none is computed for
  an execution that was started before. -/
  silent : ∀ before after, service.log = before ++ .sessionLost :: after →
    (∀ channelId response, .responseSent channelId response ∉ after) ∧
    ∀ serial, .started serial ∈ before → .answered serial ∉ after
  bounded : service.executing.size ≤ service.config.maxConcurrentServerCalls

end RpcService

namespace RpcOwner

open RpcService

theorem rpc_single_terminal {hash : List UInt8 → List UInt8} {owner : RpcOwner}
    (run : Run hash (fun _ _ => True) owner) : owner.service.SingleTerminal := by
  obtain ⟨sound, single⟩ : RpcService.Sound hash owner.service ∧ owner.service.Single :=
    invariant run (nofun : False → _) (fun _ => single_initial)
      fun _ _ sound single move => single.move sound move
  refine ⟨fun serial => (single.turned serial).1, fun serial => (single.ran serial).1, ?_,
    sound.bounded⟩
  intro before after split
  obtain ⟨noResponse, ended⟩ := single.silent before after split
  exact ⟨noResponse, fun serial isStarted => (ended serial isStarted).1⟩

/-! ### A sample run -/

variable (last : UInt8)

theorem sampleRequestId_size :
    [0, 0, 0, 0, 0, 0, 0, 0, 0, 0, 0, 0, 0, 0, 0, last].length = IdentifierKind.request.sizeBytes :=
  rfl

def sampleRequestId : RequestId :=
  ⟨[0, 0, 0, 0, 0, 0, 0, 0, 0, 0, 0, 0, 0, 0, 0, last], sampleRequestId_size last⟩

def sampleRequest : RpcRequestBody :=
  { requestId := sampleRequestId last, service := asciiBytes "s", method := asciiBytes "m" }

def sampleRequestFrame : Frame :=
  ⟨FrameType.rpcRequest.code, 0, 2, ⟨(sampleRequestId 9).bytes, rfl⟩,
    rpcRequestBytes (sampleRequest last)⟩

/-- A request arrives for a method that is there, or for one that is not. -/
def sampleArrival (registered : Bool := true) : Event :=
  .service (.frame (sampleRequestFrame last) { method := if registered then some {} else none })

variable (entries : Nat)

def sampleService : RpcService := fresh { resultCacheEntries := entries } {} 1 0

def sampleOwner : RpcOwner := { service := sampleService entries }

theorem sampleOwner_initial (small : entries ≤ 65536) : (sampleOwner entries).Initial := by
  refine ⟨sampleService entries, ⟨{ resultCacheEntries := entries }, {}, 1, 0, ?_⟩, rfl⟩
  have valid : decide (entries > 65536) = false := decide_eq_false (Nat.not_lt.mpr small)
  simp [attach, configInvalid, valid, sampleService, fresh]

/-- The handler of the first execution runs and its result reaches the strand. -/
def sampleFinish : List Event :=
  [.service (.taskStart 0 false), .service (.taskEnd 0 {} false), .service (.posted 0 .accepted)]

/-- A request is executed and the session is lost while a second one waits. -/
def interrupted : List Event :=
  sampleArrival 1 :: sampleFinish ++ [sampleArrival 2, .service .sessionClosed,
    .service (.taskStart 1 false)]

theorem rpc_single_terminal_interrupted :
    turns 0 (interrupted.foldl (step id) (sampleOwner 2)).service.log = 1 ∧
      runs 0 (interrupted.foldl (step id) (sampleOwner 2)).service.log = 1 ∧
      runs 1 (interrupted.foldl (step id) (sampleOwner 2)).service.log = 0 ∧
      (interrupted.foldl (step id) (sampleOwner 2)).service.SingleTerminal :=
  ⟨by decide +kernel, by decide +kernel, by decide +kernel,
    rpc_single_terminal (Machine.Reaches.foldl
      (.start (sampleOwner_initial 2 (by decide))) (Machine.eachAllowed_true ..))⟩

/-- Of the executions of one request id at most one is open, and none whose response is cached. -/
theorem rpc_one_open_execution {hash : List UInt8 → List UInt8} {owner : RpcOwner}
    (run : Run hash (fun _ _ => True) owner) (serial : Nat) (call : ServerCallState)
    (found : owner.service.calls[serial]? = some call) (isOpen : call.phase = 0)
    (accepted : call.task ≠ .rejected) :
    owner.service.resultCache.find? call.requestId = none ∧
      ∀ (other : Nat) (later : ServerCallState), owner.service.calls[other]? = some later →
        later.phase = 0 → later.task ≠ .rejected → later.requestId = call.requestId →
          other = serial := by
  have sound := sound_run run
  have active := sound.active serial call found isOpen accepted
  refine ⟨sound.uncached _ serial call active found isOpen, ?_⟩
  intro other later laterFound laterOpen laterAccepted same
  have elsewhere := sound.active other later laterFound laterOpen laterAccepted
  rw [same, active] at elsewhere
  exact (Option.some.inj elsewhere).symm

theorem rpc_one_open_execution_arrived :
    ∃ call, (([sampleArrival 1].foldl (step id) (sampleOwner 2)).service.calls[0]? = some call) ∧
      ([sampleArrival 1].foldl (step id) (sampleOwner 2)).service.resultCache.find?
        call.requestId = none :=
  ⟨_, rfl, (rpc_one_open_execution (Machine.Reaches.foldl
    (.start (sampleOwner_initial 2 (by decide))) (Machine.eachAllowed_true ..)) 0 _ rfl rfl
      (by decide +kernel)).1⟩

end RpcOwner

end Heyaki
