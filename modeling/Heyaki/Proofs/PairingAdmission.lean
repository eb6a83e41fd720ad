/-
Purpose: the pairing requests of one session against the record of what was answered.

The admission keeps the id and the nonce of an answered request, not the request.  Its
table never overflows: every result in it has used up an attempt of its own, and so has
the request that waits for one.

Main exports: `PairingHistory`, `PairingHistory.answered_requests_replayed`,
`PairingHistory.other_password_replayed`
-/
import Heyaki.Core.PairingProtocol
import Heyaki.Foundation.Machine

namespace Heyaki

open Foundation.Machine (Reaches)
open List

namespace PairingRequestAdmission

theorem admitRequest_cases (admission : PairingRequestAdmission) (request : PairingRequestBody) :
    (∃ error, admission.admitRequest request = (.error error, admission)) ∨
    (∃ result, admission.admitRequest request =
      (.ok { action := .duplicate, cachedResult := some result }, admission)) ∨
    admission.terminalResults.find? (fun row => row.1.1 = request.requestId) = none ∧
      admission.attemptsUsed < admission.limits.maxPairingAttemptsPerSession ∧
      admission.admitRequest request = (.ok { action := .admitted }, { admission with
        pendingKey := some (request.requestId, request.nonce)
        attemptsUsed := admission.attemptsUsed + 1 }) := by
  unfold admitRequest
  split
  · exact .inl ⟨_, rfl⟩
  split
  · split_ifs
    · exact .inr (.inl ⟨_, rfl⟩)
    · exact .inl ⟨_, rfl⟩
  · rename_i absent
    split_ifs with exhausted
    · exact .inl ⟨_, rfl⟩
    · exact .inr (.inr ⟨absent, not_le.mp exhausted, rfl⟩)

theorem recordResult_cases (admission : PairingRequestAdmission) (result : PairingResultBody) :
    (∃ error, admission.recordResult result = (.error error, admission)) ∨
    ∃ key, admission.pendingKey = some key ∧ key.1 = result.requestId ∧
      (admission.recordResult result).1 = .ok () := by
  unfold recordResult
  split
  · exact .inl ⟨_, rfl⟩
  rename_i key waiting
  by_cases other : key.1 ≠ result.requestId
  · rw [if_pos other]
    exact .inl ⟨_, rfl⟩
  · rw [if_neg other]
    refine .inr ⟨key, waiting, not_ne_iff.mp other, ?_⟩
    split <;> rfl

end PairingRequestAdmission

inductive PairingEvent where
  | request (request : PairingRequestBody)
  | result (result : PairingResultBody)

/-- An admission together with what went through it, oldest first. -/
structure PairingHistory where
  admission : PairingRequestAdmission
  /-- The requests that went to the evaluator. -/
  admitted : List PairingRequestBody := []
  /-- The last of them, while it has no result. -/
  pending : Option PairingRequestBody := none
  answered : List (PairingRequestBody × PairingResultBody) := []

namespace PairingHistory

variable (history : PairingHistory)

def step : PairingEvent → PairingHistory
  | .request request =>
    match history.admission.admitRequest request with
    | (.ok ⟨.admitted, _⟩, admission) => { history with
        admission := admission
        admitted := history.admitted ++ [request]
        pending := some request }
    | (_, admission) => { history with admission := admission }
  | .result result =>
    match history.admission.recordResult result with
    | (.ok (), admission) => { history with
        admission := admission
        pending := none
        answered := history.answered ++ (history.pending.map fun request => (request, result)).toList }
    | (.error _, admission) => { history with admission := admission }

theorem step_request (request : PairingRequestBody) :
    history.step (.request request) = history ∨
      history.admission.terminalResults.find? (fun row => row.1.1 = request.requestId) = none ∧
      history.admission.attemptsUsed < history.admission.limits.maxPairingAttemptsPerSession ∧
      history.step (.request request) = { history with
        admission := { history.admission with
          pendingKey := some (request.requestId, request.nonce)
          attemptsUsed := history.admission.attemptsUsed + 1 }
        admitted := history.admitted ++ [request]
        pending := some request } := by
  rcases history.admission.admitRequest_cases request with
    ⟨error, refused⟩ | ⟨result, replayed⟩ | ⟨absent, fits, admitted⟩
  · left
    simp only [step, refused]
  · left
    simp only [step, replayed]
  · right
    refine ⟨absent, fits, ?_⟩
    simp only [step, admitted]

/-- A result changes something only if it is the one of the waiting request. -/
theorem step_result (result : PairingResultBody) :
    history.step (.result result) = history ∨
      ∃ key, history.admission.pendingKey = some key ∧ key.1 = result.requestId ∧
        history.step (.result result) = { history with
          admission := (history.admission.recordResult result).2
          pending := none
          answered := history.answered ++
            (history.pending.map fun request => (request, result)).toList } := by
  rcases history.admission.recordResult_cases result with ⟨error, refused⟩ | ⟨key, waits, same, taken⟩
  · left
    simp only [step, refused]
  right
  refine ⟨key, waits, same, ?_⟩
  unfold step
  dsimp only
  generalize history.admission.recordResult result = recorded at taken
  obtain ⟨outcome, admission⟩ := recorded
  cases taken
  rfl

/-- Nothing has been asked yet; any limits. -/
def Starts : Prop := ∃ limits, history = { admission := { limits := limits } }

def row (entry : PairingRequestBody × PairingResultBody) :
    (RequestId × PairingNonce) × PairingResultBody :=
  ((entry.1.requestId, entry.1.nonce), entry.2)

/-- The table holds every answered request, once, under its id and nonce. -/
structure Faithful (history : PairingHistory) : Prop where
  attempts : history.admission.attemptsUsed = history.admitted.length
  bounded : history.admitted.length ≤ history.admission.limits.maxPairingAttemptsPerSession
  table : history.admission.terminalResults = history.answered.map row
  waiting : history.admission.pendingKey =
    history.pending.map fun request => (request.requestId, request.nonce)
  distinct : (history.answered.map fun entry => entry.1.requestId).Nodup
  unanswered : ∀ request ∈ history.pending, ∀ entry ∈ history.answered,
    entry.1.requestId ≠ request.requestId
  room : history.answered.length + history.pending.toList.length ≤ history.admitted.length

namespace Faithful

variable {history : PairingHistory}

theorem of_starts (starts : Starts history) : Faithful history := by
  obtain ⟨limits, rfl⟩ := starts
  exact ⟨rfl, Nat.zero_le _, rfl, rfl, .nil, fun _ none => (by cases none), Nat.le_refl _⟩

section

variable (faithful : Faithful history)

include faithful

/-- The entry that the admission looks at is the answered request of that id. -/
theorem find_row {entry : PairingRequestBody × PairingResultBody}
    (member : entry ∈ history.answered) {id : RequestId} (same : entry.1.requestId = id) :
    history.admission.terminalResults.find? (fun row => row.1.1 = id) = some (row entry) := by
  have distinct := faithful.distinct
  rw [faithful.table]
  generalize history.answered = answered at member distinct
  induction answered with
  | nil => cases member
  | cons first rest ih =>
    rw [map_cons, nodup_cons] at distinct
    rw [map_cons]
    rcases mem_cons.mp member with rfl | later
    · exact find?_cons_of_pos (decide_eq_true same)
    have other : first.1.requestId ≠ id := by
      intro equal
      apply distinct.1
      rw [equal, ← same]
      exact mem_map_of_mem later
    refine (find?_cons_of_neg ?_).trans (ih later distinct.2)
    exact fun equal => other (of_decide_eq_true equal)

theorem request (request : PairingRequestBody) :
    Faithful (history.step (.request request)) := by
  rcases history.step_request request with same | ⟨absent, fits, admitted⟩
  · rw [same]
    exact faithful
  have attempts := faithful.attempts
  have room := faithful.room
  rw [admitted]
  refine ⟨?_, ?_, faithful.table, rfl, faithful.distinct, ?_, ?_⟩
  · rw [length_append, length_singleton, attempts]
  · rw [length_append, length_singleton, ← attempts]
    exact fits
  · rintro _ ⟨⟩
    intro entry member same
    cases (faithful.find_row member same).symm.trans absent
  · rw [length_append, length_singleton]
    exact Nat.add_le_add_right (Nat.le_of_add_right_le room) 1

/-- The result of a waiting request finds room, under an id of its own. -/
theorem recordResult {request : PairingRequestBody}
    (pending : history.pending = some request) {result : PairingResultBody}
    (same : request.requestId = result.requestId) :
    (history.admission.recordResult result).2 = { history.admission with
      terminalResults := history.admission.terminalResults ++ [row (request, result)]
      pendingKey := none } := by
  have absent : (history.admission.terminalResults.any fun entry =>
      entry.1.1 = result.requestId) = false := by
    rw [any_eq_false, faithful.table]
    intro stored member equal
    obtain ⟨entry, answered, rfl⟩ := mem_map.mp member
    apply faithful.unanswered request pending entry answered
    exact (of_decide_eq_true equal).trans same.symm
  have fits : ¬ history.admission.terminalResults.length ≥
      history.admission.limits.maxPairingAttemptsPerSession := by
    have room := faithful.room
    have bounded := faithful.bounded
    rw [pending, Option.toList_some, length_singleton] at room
    rw [faithful.table, length_map]
    omega
  unfold PairingRequestAdmission.recordResult
  rw [faithful.waiting, pending]
  dsimp only [Option.map_some]
  rw [if_neg (not_ne_iff.mpr same), absent, if_neg Bool.false_ne_true, if_neg fits]
  rfl

theorem result (result : PairingResultBody) :
    Faithful (history.step (.result result)) := by
  rcases history.step_result result with same | ⟨key, waits, same, recorded⟩
  · rw [same]
    exact faithful
  have waiting := faithful.waiting
  have room := faithful.room
  rw [recorded]
  cases pending : history.pending with
  | none =>
    rw [waits, pending] at waiting
    cases waiting
  | some request =>
    rw [waits, pending] at waiting
    cases waiting
    rw [pending, Option.toList_some, length_singleton] at room
    rw [faithful.recordResult pending same]
    refine ⟨faithful.attempts, faithful.bounded, ?_, rfl, ?_, fun _ none => (by cases none), ?_⟩
    · rw [Option.map_some, Option.toList_some, map_append, map_singleton,
        faithful.table]
    · rw [Option.map_some, Option.toList_some, map_append, map_singleton,
        ← concat_eq_append, nodup_concat]
      refine ⟨fun member => ?_, faithful.distinct⟩
      obtain ⟨entry, answered, equal⟩ := mem_map.mp member
      exact faithful.unanswered request pending entry answered equal
    · rw [Option.map_some, Option.toList_some, length_append, length_singleton]
      exact room

end

end Faithful

theorem faithful_of_run {history : PairingHistory}
    (run : Reaches step Starts (fun _ _ => True) history) : Faithful history := by
  apply run.invariant
  · intro history starts
    exact .of_starts starts
  · intro history event faithful _
    cases event with
    | request request => exact faithful.request request
    | result result => exact faithful.result result

/-- In every run the evaluator gets at most the allowed number of requests.  A request
with the id of an answered one is never admitted, replays the result if it is the same
request, and is refused as conflicting exactly when its nonce is another one. -/
theorem answered_requests_replayed {history : PairingHistory}
    (run : Reaches step Starts (fun _ _ => True) history) :
    history.admitted.length ≤ history.admission.limits.maxPairingAttemptsPerSession ∧
      ∀ entry ∈ history.answered, ∀ request, validatePairingRequest request = .ok () →
        request.requestId = entry.1.requestId →
          (history.admission.admitRequest request).2 = history.admission ∧
          (∀ outcome, (history.admission.admitRequest request).1 = .ok outcome →
            outcome.action ≠ .admitted) ∧
          (request = entry.1 → (history.admission.admitRequest request).1 =
            .ok { action := .duplicate, cachedResult := some entry.2 }) ∧
          ((history.admission.admitRequest request).1 =
              .error (pairingError .protocol "conflicting_duplicate_request") ↔
            request.nonce ≠ entry.1.nonce) := by
  have faithful := faithful_of_run run
  refine ⟨faithful.bounded, fun entry member request valid same => ?_⟩
  have found := faithful.find_row member same.symm
  have admits : history.admission.admitRequest request =
      (if entry.1.nonce = request.nonce then
        (.ok { action := .duplicate, cachedResult := some entry.2 }, history.admission)
      else (.error (pairingError .protocol "conflicting_duplicate_request"), history.admission)) := by
    unfold PairingRequestAdmission.admitRequest
    rw [valid]
    rw [found]
    rfl
  rw [admits]
  by_cases nonce : entry.1.nonce = request.nonce
  · rw [if_pos nonce]
    refine ⟨rfl, ?_, fun _ => rfl, ?_⟩
    · rintro outcome ⟨⟩ admitted
      cases admitted
    · constructor
      · intro refused
        cases refused
      · intro differs
        exact absurd nonce.symm differs
  · rw [if_neg nonce]
    refine ⟨rfl, ?_, ?_, ?_⟩
    · rintro outcome ⟨⟩
    · rintro rfl
      exact absurd rfl nonce
    · exact ⟨fun _ equal => nonce equal.symm, fun _ => rfl⟩

/-! ### Two requests of one id and nonce -/

def sampleRequest (password : List UInt8) : PairingRequestBody where
  requestId := .filled 1
  nonce := filledBytes 32 2
  requestedScopes := ["message".toUTF8.toList]
  passwordUtf8 := password

def sampleDenial : PairingResultBody := { requestId := .filled 1, status := .permissionDenied }

/-- A request with the password "a" is denied. -/
def deniedHistory : PairingHistory :=
  [.request (sampleRequest [97]), .result sampleDenial].foldl step { admission := {} }

theorem deniedHistory_reached : Reaches step Starts (fun _ _ => True) deniedHistory :=
  (Reaches.start ⟨{}, rfl⟩).foldl (Foundation.Machine.eachAllowed_true _ _)

theorem answered_requests_replayed_denied :
    (sampleRequest [97], sampleDenial) ∈ deniedHistory.answered ∧
      deniedHistory.admitted.length ≤ deniedHistory.admission.limits.maxPairingAttemptsPerSession ∧
      (deniedHistory.admission.admitRequest (sampleRequest [97])).1 =
        .ok { action := .duplicate, cachedResult := some sampleDenial } := by
  have answered : (sampleRequest [97], sampleDenial) ∈ deniedHistory.answered := by decide +kernel
  obtain ⟨bounded, replays⟩ := answered_requests_replayed deniedHistory_reached
  have same := replays _ answered (sampleRequest [97]) (by decide +kernel) rfl
  exact ⟨answered, bounded, same.2.2.1 rfl⟩

/-- Another password under the same id and nonce gets the result of the first one. -/
theorem other_password_replayed :
    Reaches step Starts (fun _ _ => True) deniedHistory ∧
      (sampleRequest [97], sampleDenial) ∈ deniedHistory.answered ∧
      validatePairingRequest (sampleRequest [98]) = .ok () ∧
      (sampleRequest [98]).requestId = (sampleRequest [97]).requestId ∧
      sampleRequest [98] ≠ sampleRequest [97] ∧
      (deniedHistory.admission.admitRequest (sampleRequest [98])).1 =
        .ok { action := .duplicate, cachedResult := some sampleDenial } := by
  refine ⟨deniedHistory_reached, ?_, ?_, rfl, ?_, ?_⟩
  · decide +kernel
  · decide +kernel
  · decide +kernel
  · decide +kernel

end PairingHistory

end Heyaki
