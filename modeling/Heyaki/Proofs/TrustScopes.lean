/-
Purpose: the order of scopes and what adjudication lets through.

A scope covers itself, and `a:*` covers whatever goes on after `a:`.  The stem may
hold colons and asterisks of its own, so that transitivity and antisymmetry are
about where one stem ends inside another scope.

Main exports: `trustScopeCovers_trans`, `adjudication_never_escalates`
-/
import Heyaki.Core.TrustGrant

namespace Heyaki

open List

variable {requested granted scope one two : List UInt8} {scopes : List (List UInt8)}

/-! ### Scopes that cover scopes -/

/-- A granted scope `a:*` covers `a:b`, with nothing empty. -/
def WildcardCovers (granted requested : List UInt8) : Prop :=
  ∃ stem rest, stem ≠ [] ∧ rest ≠ [] ∧ granted = stem ++ wildcard ∧ requested = stem ++ 0x3a :: rest

theorem covers_cases (covers : trustScopeCovers granted requested = true) :
    granted = requested ∨ WildcardCovers granted requested := by
  unfold trustScopeCovers at covers
  split at covers
  · exact .inl ‹_›
  split at covers
  · rename_i ends
    obtain ⟨longer, suffix⟩ := ends
    obtain ⟨length, start, colon⟩ := of_decide_eq_true covers
    obtain ⟨inside, value⟩ := List.getElem?_eq_some_iff.mp colon
    have split := take_append_drop (granted.take (granted.length - wildcard.length)).length
      requested
    rw [start, drop_eq_getElem_cons inside, value] at split
    refine .inr ⟨_, _, ?_, ?_, ?_, split.symm⟩
    · apply ne_nil_of_length_pos
      rw [length_take]
      omega
    · apply ne_nil_of_length_pos
      rw [length_drop]
      omega
    · conv_lhs => rw [← take_append_drop (granted.length - wildcard.length) granted]
      rw [suffix]
  · cases covers

theorem covers_of_wildcard (covers : WildcardCovers granted requested) :
    trustScopeCovers granted requested = true := by
  obtain ⟨stem, rest, nonempty, more, rfl, rfl⟩ := covers
  have stemLength : 0 < stem.length := length_pos_of_ne_nil nonempty
  have restLength : 0 < rest.length := length_pos_of_ne_nil more
  have lengthEq : (stem ++ wildcard).length - wildcard.length = stem.length := by simp
  unfold trustScopeCovers
  split
  · rfl
  rw [if_pos]
  · simp only [lengthEq, take_left]
    simp only [length_append, length_cons, getElem?_append_right, Nat.le_refl,
      Nat.sub_self, getElem?_cons_zero, and_true, decide_eq_true_eq]
    omega
  · rw [lengthEq, drop_left, length_append]
    exact ⟨by omega, rfl⟩

theorem trustScopeCovers_self (scope : List UInt8) : trustScopeCovers scope scope = true := by
  exact if_pos rfl

theorem trustScopeCovers_trans {three : List UInt8}
    (first : trustScopeCovers one two = true) (second : trustScopeCovers two three = true) :
    trustScopeCovers one three = true := by
  rcases covers_cases first with rfl | ⟨stem, rest, nonempty, more, rfl, requested⟩
  · exact second
  rcases covers_cases second with rfl | ⟨middle, tail, _, tailMore, granted, rfl⟩
  · exact first
  apply covers_of_wildcard
  -- the second stem is the first one, or goes on after its colon
  rcases append_eq_append_iff.mp (requested.symm.trans granted) with
    ⟨gap, middleEq, restEq⟩ | ⟨gap, stemEq, wildEq⟩
  · cases gap with
    | nil => exact ⟨stem, tail, nonempty, tailMore, rfl, by rw [middleEq, append_nil]⟩
    | cons byte gap =>
      injection restEq with byteEq restEq
      refine ⟨stem, gap ++ 0x3a :: tail, nonempty, by simp, rfl, ?_⟩
      rw [middleEq, ← byteEq]
      simp
  · have shared : gap = [] := by
      have lengths := congrArg length wildEq
      have restLength : 0 < rest.length := length_pos_of_ne_nil more
      apply eq_nil_of_length_eq_zero
      simp [wildcard] at lengths
      omega
    subst shared
    exact ⟨stem, tail, nonempty, tailMore, rfl, by rw [stemEq, append_nil]⟩

theorem WildcardCovers.length_le (covers : WildcardCovers granted requested) :
    granted.length ≤ requested.length := by
  obtain ⟨stem, rest, _, more, rfl, rfl⟩ := covers
  have restLength : 0 < rest.length := length_pos_of_ne_nil more
  simp only [wildcard, length_append, length_cons, length_nil]
  omega

theorem trustScopeCovers_antisymm
    (first : trustScopeCovers one two = true) (second : trustScopeCovers two one = true) :
    one = two := by
  rcases covers_cases first with same | forth
  · exact same
  rcases covers_cases second with same | back
  · exact same.symm
  have lengths : one.length = two.length := Nat.le_antisymm forth.length_le back.length_le
  obtain ⟨stem, rest, _, _, rfl, requested⟩ := forth
  obtain ⟨other, tail, _, _, rfl, granted⟩ := back
  -- both are a stem of one length and two bytes, and each goes on as the other's stem
  have stems : stem.length = other.length := by simpa using lengths
  have same : other = stem := by
    have halves := congrArg (take stem.length) requested
    rwa [take_left, stems, take_left] at halves
  rw [same]

/-! ### Adjudication -/

def Within (scopes : List (List UInt8)) (scope : List UInt8) : Prop :=
  ∃ granted ∈ scopes, trustScopeCovers granted scope = true

instance (scopes : List (List UInt8)) (scope : List UInt8) : Decidable (Within scopes scope) :=
  inferInstanceAs (Decidable (∃ granted ∈ scopes, trustScopeCovers granted scope = true))

/-- The local policy allows the scope; without a policy every scope is allowed. -/
def PolicyAllows : Option (List (List UInt8)) → List UInt8 → Prop
  | none, _ => True
  | some policy, scope => Within policy scope

instance : (policy : Option (List (List UInt8))) → (scope : List UInt8) →
    Decidable (PolicyAllows policy scope)
  | none, _ => inferInstanceAs (Decidable True)
  | some policy, scope => inferInstanceAs (Decidable (Within policy scope))

def Widened (scopes wider : List (List UInt8)) : Prop := ∀ scope ∈ scopes, Within wider scope

/-- A policy is widened by one with wider scopes, and by having none. -/
def PolicyWidened : Option (List (List UInt8)) → Option (List (List UInt8)) → Prop
  | _, none => True
  | none, some _ => False
  | some policy, some wider => Widened policy wider

theorem Within.covered {concrete : List UInt8} (within : Within scopes scope)
    (covers : trustScopeCovers scope concrete = true) :
    Within scopes concrete := by
  obtain ⟨granted, member, stronger⟩ := within
  exact ⟨granted, member, trustScopeCovers_trans stronger covers⟩

theorem Within.widened {wider : List (List UInt8)} (within : Within scopes scope)
    (widened : Widened scopes wider) : Within wider scope := by
  obtain ⟨granted, member, covers⟩ := within
  exact (widened granted member).covered covers

theorem PolicyAllows.widened {policy wider : Option (List (List UInt8))}
    (allows : PolicyAllows policy scope) (widened : PolicyWidened policy wider) :
    PolicyAllows wider scope := by
  cases wider with
  | none => trivial
  | some wider =>
    cases policy with
    | none => exact widened.elim
    | some policy => exact Within.widened allows widened

theorem intersectTrustScopes_eq (requested granted : List (List UInt8)) :
    intersectTrustScopes requested granted =
      requested.filter fun scope => decide (Within granted scope) := by
  apply filter_congr
  intro scope _
  rw [Bool.eq_iff_iff, any_eq_true, decide_eq_true_iff]
  rfl

theorem adjudicateTrustScopes_eq (requested granted : List (List UInt8))
    (policy : Option (List (List UInt8))) :
    (adjudicateTrustScopes requested granted policy).allowedScopes =
      requested.filter fun scope => decide (Within granted scope ∧ PolicyAllows policy scope) := by
  cases policy with
  | none => simp [adjudicateTrustScopes, intersectTrustScopes_eq, PolicyAllows]
  | some policy =>
    simp only [adjudicateTrustScopes, intersectTrustScopes_eq, filter_filter]
    apply filter_congr
    intro scope _
    rw [Bool.eq_iff_iff, Bool.and_eq_true, decide_eq_true_iff, decide_eq_true_iff,
      decide_eq_true_iff]
    exact And.comm

/-- `trust_scope_covers` orders the scopes, and adjudication passes exactly the
requested scopes that the grant and the policy cover, in their order.  Nothing
below an adjudicated scope lies outside the grant or the policy, and a wider grant
or policy removes no scope. -/
theorem adjudication_never_escalates :
    (∀ scope, trustScopeCovers scope scope = true) ∧
    (∀ one two, trustScopeCovers one two = true → trustScopeCovers two one = true → one = two) ∧
    (∀ one two three, trustScopeCovers one two = true → trustScopeCovers two three = true →
      trustScopeCovers one three = true) ∧
    ∀ requested granted policy,
      (adjudicateTrustScopes requested granted policy).allowedScopes =
        requested.filter (fun scope => decide (Within granted scope ∧ PolicyAllows policy scope)) ∧
      (∀ scope ∈ (adjudicateTrustScopes requested granted policy).allowedScopes,
        ∀ concrete, trustScopeCovers scope concrete = true →
          Within granted concrete ∧ PolicyAllows policy concrete) ∧
      ∀ wider widerPolicy, Widened granted wider → PolicyWidened policy widerPolicy →
        (adjudicateTrustScopes requested granted policy).allowedScopes.Sublist
          (adjudicateTrustScopes requested wider widerPolicy).allowedScopes := by
  refine ⟨trustScopeCovers_self, fun _ _ => trustScopeCovers_antisymm,
    fun _ _ _ => trustScopeCovers_trans, ?_⟩
  intro requested granted policy
  refine ⟨adjudicateTrustScopes_eq requested granted policy, ?_, ?_⟩
  · intro scope member concrete covers
    rw [adjudicateTrustScopes_eq, mem_filter, decide_eq_true_iff] at member
    obtain ⟨_, within, allows⟩ := member
    refine ⟨within.covered covers, ?_⟩
    cases policy with
    | none => trivial
    | some policy => exact Within.covered allows covers
  · intro wider widerPolicy widened policyWidened
    rw [adjudicateTrustScopes_eq, adjudicateTrustScopes_eq]
    apply monotone_filter_right
    intro scope passes
    rw [decide_eq_true_iff] at passes ⊢
    exact ⟨passes.1.widened widened, passes.2.widened policyWidened⟩

end Heyaki
