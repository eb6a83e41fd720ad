/-
Purpose: programs whose calls may fail, and transactions made of them.

A transaction works on a copy of the store.  It leaves the copy if every call of it
succeeds, and the store as it was otherwise.
-/
import Mathlib

namespace Foundation.Transaction

variable {σ ε : Type*} {α β : Type} {error : ε} {result : β}

/-- A call that fails where the environment makes it fail. -/
def attempt (fails : Bool) (error : ε) : Except ε Unit :=
  if fails then .error error else .ok ()

/-- What a transaction answers and leaves. -/
def commit (store : σ) : Except ε (α × σ) → Except ε α × σ
  | .error error => (.error error, store)
  | .ok (value, after) => (.ok value, after)

@[simp] theorem attempt_eq_ok {fails : Bool} {value : Unit} :
    attempt fails error = .ok value ↔ fails = false := by
  cases fails with
  | false | true => simp [attempt]

theorem bind_eq_ok {first : Except ε α} {rest : α → Except ε β} :
    (first >>= rest) = .ok result ↔ ∃ value, first = .ok value ∧ rest value = .ok result := by
  cases first with
  | error error =>
    constructor
    · intro same
      cases same
    · rintro ⟨value, same, -⟩
      cases same
  | ok value =>
    constructor
    · intro same
      exact ⟨value, rfl, same⟩
    · rintro ⟨other, same, rest⟩
      cases same
      exact rest

/-- A refusal before the rest. -/
theorem guard_eq_ok {refused : Prop} [Decidable refused] {rest : Except ε β} :
    (if refused then .error error else rest) = .ok result ↔ ¬ refused ∧ rest = .ok result := by
  by_cases holds : refused
  · simp [holds]
  · simp [holds]

/-- A transaction answers as its body does, and only a failed one keeps the store. -/
theorem commit_cases (store : σ) (body : Except ε (α × σ)) :
    (∃ error, body = .error error ∧ commit store body = (.error error, store)) ∨
      ∃ value after, body = .ok (value, after) ∧ commit store body = (.ok value, after) := by
  cases body with
  | error error => exact .inl ⟨error, rfl, rfl⟩
  | ok done => exact .inr ⟨done.1, done.2, rfl, rfl⟩

end Foundation.Transaction
