/-
Purpose: runs of a deterministic machine whose steps are restricted by a
predicate on the state before the step and the event, and append-only histories with
the places in them.
-/
import Mathlib

namespace Foundation.Machine

variable {State Event : Type*} {step : State → Event → State} {initial : State → Prop}
  {allowed : State → Event → Prop} {state : State} {events : List Event}

/-- States at the end of a run that starts in an initial state and makes only
allowed steps. -/
inductive Reaches (step : State → Event → State) (initial : State → Prop)
    (allowed : State → Event → Prop) : State → Prop
  | start {state : State} (isInitial : initial state) : Reaches step initial allowed state
  | next {state : State} (event : Event) (run : Reaches step initial allowed state)
      (ok : allowed state event) : Reaches step initial allowed (step state event)

/-- A property of the initial states that allowed steps keep holds throughout. -/
theorem Reaches.invariant {property : State → Prop} (run : Reaches step initial allowed state)
    (start : ∀ state, initial state → property state)
    (keep : ∀ state event, property state → allowed state event → property (step state event)) :
    property state := by
  induction run with
  | start isInitial => exact start _ isInitial
  | next event _ ok ih => exact keep _ event ih ok

/-- Every event of a list is allowed in the state it meets. -/
def EachAllowed (step : State → Event → State) (allowed : State → Event → Prop) :
    State → List Event → Prop
  | _, [] => True
  | state, event :: events =>
    allowed state event ∧ EachAllowed step allowed (step state event) events

instance EachAllowed.decidable [∀ state event, Decidable (allowed state event)] :
    ∀ (state : State) (events : List Event), Decidable (EachAllowed step allowed state events)
  | _, [] => .isTrue trivial
  | state, event :: events =>
    have := EachAllowed.decidable (step state event) events
    inferInstanceAs (Decidable (_ ∧ EachAllowed step allowed (step state event) events))

/-- A list of allowed events extends a run. -/
theorem Reaches.foldl (run : Reaches step initial allowed state)
    (each : EachAllowed step allowed state events) :
    Reaches step initial allowed (events.foldl step state) := by
  induction events generalizing state with
  | nil => exact run
  | cons event events ih => exact ih (.next event run each.1) each.2

theorem EachAllowed.append {more : List Event} (first : EachAllowed step allowed state events)
    (second : EachAllowed step allowed (events.foldl step state) more) :
    EachAllowed step allowed state (events ++ more) := by
  induction events generalizing state with
  | nil => exact second
  | cons event events ih => exact ⟨first.1, ih first.2 second⟩

theorem EachAllowed.mono {other : State → Event → Prop}
    (each : EachAllowed step allowed state events)
    (weaker : ∀ state event, allowed state event → other state event) :
    EachAllowed step other state events := by
  induction events generalizing state with
  | nil => trivial
  | cons event events ih => exact ⟨weaker _ _ each.1, ih each.2⟩

theorem eachAllowed_true (state : State) (events : List Event) :
    EachAllowed step (fun _ _ => True) state events := by
  induction events generalizing state with
  | nil => trivial
  | cons event events ih => exact ⟨trivial, ih _⟩

end Foundation.Machine

namespace Foundation.History

variable {α : Type*} {log records before after : List α} {entry : α}

/-- A place in an extended history is in the old part or in the new one. -/
theorem split_append (split : log ++ records = before ++ entry :: after) :
    (∃ tail, log = before ++ entry :: tail ∧ after = tail ++ records) ∨
    (∃ front, before = log ++ front ∧ records = front ++ entry :: after) := by
  rcases List.append_eq_append_iff.mp split with ⟨front, beforeEq, recordsEq⟩ | ⟨middle, logEq, eq⟩
  · exact .inr ⟨front, beforeEq, recordsEq⟩
  · cases middle with
    | nil => exact .inr ⟨[], by simpa using logEq.symm, by simpa using eq.symm⟩
    | cons head tail =>
      obtain ⟨rfl, rfl⟩ := List.cons.inj eq
      exact .inl ⟨tail, logEq, rfl⟩

/-- New entries of other kinds leave the places of an entry where they were. -/
theorem split_append_of_not_mem
    (split : log ++ records = before ++ entry :: after) (absent : entry ∉ records) :
    ∃ tail, log = before ++ entry :: tail ∧ after = tail ++ records := by
  rcases split_append split with old | ⟨front, -, recordsEq⟩
  · exact old
  · exact absurd (recordsEq ▸ List.mem_append_right front (.head _)) absent

end Foundation.History
