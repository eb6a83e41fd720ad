/-
Purpose: codes that end by themselves.

A code is self-delimiting when the code of a value can be told from whatever
follows it.  Such codes compose: one after another, a count before so many codes,
a length before so many symbols.
-/
import Mathlib

namespace Foundation.Framing

variable {α β σ : Type*}

/-- The code of an accepted value and what follows it determine the value. -/
def SelfDelimiting (accepts : α → Prop) (encode : α → List σ) : Prop :=
  ∀ one two rest other, accepts one → accepts two →
    encode one ++ rest = encode two ++ other → one = two ∧ rest = other

namespace SelfDelimiting

variable {accepts : α → Prop} {encode : α → List σ}

/-- Codes of one length need only be different. -/
theorem of_length (size : Nat) (length : ∀ value, accepts value → (encode value).length = size)
    (injective : ∀ one two, accepts one → accepts two → encode one = encode two → one = two) :
    SelfDelimiting accepts encode := by
  intro one two rest other accepted accepted' same
  have lengths : (encode one).length = (encode two).length := by
    rw [length one accepted, length two accepted']
  obtain ⟨codes, rests⟩ := List.append_inj same lengths
  exact ⟨injective one two accepted accepted' codes, rests⟩

/-- One code after another. -/
theorem append {accepts' : β → Prop} {encode' : β → List σ}
    (first : SelfDelimiting accepts encode) (second : SelfDelimiting accepts' encode') :
    SelfDelimiting (fun pair : α × β => accepts pair.1 ∧ accepts' pair.2)
      fun pair => encode pair.1 ++ encode' pair.2 := by
  rintro ⟨one, one'⟩ ⟨two, two'⟩ rest other ⟨accepted, accepted'⟩ ⟨acceptedTwo, acceptedTwo'⟩ same
  simp only [List.append_assoc] at same
  obtain ⟨firsts, tails⟩ := first one two _ _ accepted acceptedTwo same
  obtain ⟨seconds, rests⟩ := second one' two' _ _ accepted' acceptedTwo' tails
  exact ⟨Prod.ext firsts seconds, rests⟩

/-- The codes of equally many values. -/
theorem flatMap (code : SelfDelimiting accepts encode) {values others : List α}
    {rest other : List σ} (length : values.length = others.length)
    (accepted : ∀ value ∈ values, accepts value) (accepted' : ∀ value ∈ others, accepts value)
    (same : values.flatMap encode ++ rest = others.flatMap encode ++ other) :
    values = others ∧ rest = other := by
  induction values generalizing others with
  | nil =>
    cases others with
    | nil => exact ⟨rfl, same⟩
    | cons value others => cases length
  | cons value values ih =>
    cases others with
    | nil => cases length
    | cons value' others =>
      simp only [List.flatMap_cons, List.append_assoc] at same
      obtain ⟨heads, tails⟩ := code _ _ _ _ (accepted _ (.head _)) (accepted' _ (.head _)) same
      obtain ⟨lists, rests⟩ := ih (Nat.succ.inj length)
        (fun value member => accepted value (.tail _ member))
        (fun value member => accepted' value (.tail _ member)) tails
      exact ⟨congrArg₂ List.cons heads lists, rests⟩

/-- A string after the code of its length. -/
theorem sized {accepts : Nat → Prop} {encode : Nat → List σ} (code : SelfDelimiting accepts encode) :
    SelfDelimiting (fun text : List σ => accepts text.length)
      fun text => encode text.length ++ text := by
  intro one two rest other accepted accepted' same
  simp only [List.append_assoc] at same
  obtain ⟨lengths, same⟩ := code _ _ _ _ accepted accepted' same
  exact List.append_inj same lengths

/-- The codes of a list after the code of its length. -/
theorem counted {acceptsCount : Nat → Prop} {encodeCount : Nat → List σ}
    (count : SelfDelimiting acceptsCount encodeCount) (code : SelfDelimiting accepts encode) :
    SelfDelimiting (fun values : List α => acceptsCount values.length ∧ ∀ value ∈ values, accepts value)
      fun values => encodeCount values.length ++ values.flatMap encode := by
  intro values others rest other accepted accepted' same
  simp only [List.append_assoc] at same
  obtain ⟨lengths, same⟩ := count _ _ _ _ accepted.1 accepted'.1 same
  exact code.flatMap lengths accepted.2 accepted'.2 same

end SelfDelimiting

end Foundation.Framing
