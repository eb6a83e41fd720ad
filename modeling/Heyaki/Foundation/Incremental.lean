/-
Purpose: cutting a stream into items when the bytes arrive in pieces.

A classifier looks at the front of the input and finds an item, asks for more,
or rejects.  `drain` takes items off one string for as long as there are any;
`feed` does so after each piece of a tagged sequence of pieces, keeping what is
left over.  The tag lets a classifier depend on circumstances of the cut that
are not part of the stream; `feed_eq_drain` turns such a run into one `drain`
of the whole string with the cuts that reject early marked in it.
-/
import Mathlib

namespace Foundation.Incremental

variable {α β τ : Type} {input start : List β} {early : τ → List β → Prop}
  {pieces : List (List β × τ)}

/-- What a classifier says about the front of its input. -/
inductive Verdict (α : Type) where
  | item (consumed : Nat) (value : α)
  | more
  | bad

/-- An item takes up some of the input and no more than there is. -/
def Progress (classify : List β → Verdict α) : Prop :=
  ∀ input consumed value, classify input = .item consumed value →
    0 < consumed ∧ consumed ≤ input.length

/-- A classifier whose decisions rest on the front of the input alone. -/
structure Framing (classify : List β → Verdict α) : Prop where
  progress : Progress classify
  stable : ∀ input later, classify input ≠ .more → classify (input ++ later) = classify input
  tight : ∀ input consumed value, classify input = .item consumed value →
    classify (input.take consumed) = .item consumed value

/-! ### Draining one string -/

def drainFuel (classify : List β → Verdict α) : Nat → List β → List α × Option (List β)
  | 0, input => ([], some input)
  | fuel + 1, input =>
    match classify input with
    | .item consumed value =>
      let rest := drainFuel classify fuel (input.drop consumed)
      (value :: rest.1, rest.2)
    | .more => ([], some input)
    | .bad => ([], none)

/-- The items at the front of the input, and what is left of it unless it was rejected. -/
def drain (classify : List β → Verdict α) (input : List β) : List α × Option (List β) :=
  drainFuel classify (input.length + 1) input

variable {classify : List β → Verdict α} {consumed : Nat} {value : α}

theorem Progress.shorter (progress : Progress classify)
    (verdict : classify input = .item consumed value) :
    (input.drop consumed).length < input.length := by
  have taken := progress input consumed value verdict
  rw [List.length_drop]
  omega

/-- Fuel beyond the length of the input does not matter. -/
theorem drainFuel_eq_drainFuel (progress : Progress classify) :
    ∀ (fuel fuel' : Nat) (input : List β), input.length < fuel → input.length < fuel' →
      drainFuel classify fuel input = drainFuel classify fuel' input
  | 0, _, _, enough, _ => absurd enough (Nat.not_lt_zero _)
  | _ + 1, 0, _, _, enough => absurd enough (Nat.not_lt_zero _)
  | fuel + 1, fuel' + 1, input, enough, enough' => by
    rw [drainFuel, drainFuel]
    cases verdict : classify input with
    | more => rfl
    | bad => rfl
    | item consumed value =>
      have shorter := progress.shorter verdict
      simp only [drainFuel_eq_drainFuel progress fuel fuel' (input.drop consumed)
        (by omega) (by omega)]

theorem drain_item (progress : Progress classify)
    (verdict : classify input = .item consumed value) :
    drain classify input =
      (value :: (drain classify (input.drop consumed)).1,
        (drain classify (input.drop consumed)).2) := by
  rw [drain, drainFuel, verdict]
  simp only [drain, drainFuel_eq_drainFuel progress input.length
    ((input.drop consumed).length + 1) (input.drop consumed) (progress.shorter verdict)
    (Nat.lt_succ_self _)]

theorem drain_more (verdict : classify input = .more) :
    drain classify input = ([], some input) := by
  rw [drain, drainFuel, verdict]

theorem drain_bad (verdict : classify input = .bad) : drain classify input = ([], none) := by
  rw [drain, drainFuel, verdict]

/-- Strong induction along the items of a string. -/
theorem drain_induction (progress : Progress classify) {motive : List β → Prop}
    (item : ∀ input consumed value, classify input = .item consumed value →
      motive (input.drop consumed) → motive input)
    (more : ∀ input, classify input = .more → motive input)
    (bad : ∀ input, classify input = .bad → motive input) (input : List β) : motive input := by
  induction size : input.length using Nat.strongRecOn generalizing input with
  | ind n ih =>
    cases verdict : classify input with
    | more => exact more input verdict
    | bad => exact bad input verdict
    | item consumed value =>
      apply item input consumed value verdict
      exact ih _ (size ▸ progress.shorter verdict) _ rfl

/-! ### Comparing two classifiers -/

/-- The items found and whether the input was rejected in the end. -/
def report (drained : List α × Option (List β)) : List α × Bool := (drained.1, drained.2.isNone)

/-- The places in a string where the classifier is asked. -/
inductive Start (classify : List β → Verdict α) : List β → List β → Prop where
  | here (input : List β) : Start classify input input
  | later {input : List β} {consumed : Nat} {value : α} {start : List β}
      (verdict : classify input = .item consumed value)
      (next : Start classify (input.drop consumed) start) : Start classify input start

theorem start_length_le (reached : Start classify input start) : start.length ≤ input.length := by
  induction reached with
  | here input => exact Nat.le_refl _
  | later verdict next ih =>
    rw [List.length_drop] at ih
    exact ih.trans (Nat.sub_le _ _)

section Comparing

variable {classify' : List β → Verdict α} (progress : Progress classify)

include progress

/-- Classifiers that agree wherever the second is asked drain alike. -/
theorem drain_congr (progress' : Progress classify')
    (agree : ∀ start, Start classify input start → classify' start = classify start) :
    drain classify' input = drain classify input := by
  induction input using drain_induction progress with
  | item input consumed value verdict ih =>
    have same := (agree input (.here input)).trans verdict
    rw [drain_item progress verdict, drain_item progress' same,
      ih fun start reached => agree start (.later verdict reached)]
  | more input verdict =>
    rw [drain_more verdict, drain_more ((agree input (.here input)).trans verdict)]
  | bad input verdict =>
    rw [drain_bad verdict, drain_bad ((agree input (.here input)).trans verdict)]

/-- A place where exactly one of two classifiers rejects tells them apart. -/
theorem report_drain_ne (rejected : classify' input = .bad) (accepted : classify input ≠ .bad) :
    report (drain classify' input) ≠ report (drain classify input) := by
  rw [drain_bad rejected]
  intro reports
  cases verdict : classify input with
  | bad => exact accepted verdict
  | more => simp [report, drain_more verdict] at reports
  | item consumed value => simp [report, drain_item progress verdict] at reports

/-- Two classifiers that only ever differ by one of them rejecting report the
same exactly when they agree wherever the second is asked. -/
theorem report_drain_eq_iff (progress' : Progress classify')
    (differ : ∀ input, classify' input ≠ classify input →
      classify' input = .bad ∨ classify input = .bad)
    (input : List β) :
    report (drain classify' input) = report (drain classify input) ↔
      ∀ start, Start classify input start → classify' start = classify start := by
  -- a disagreement ends the comparison
  have same : ∀ {input}, report (drain classify' input) = report (drain classify input) →
      classify' input = classify input := by
    intro input reports
    by_contra different
    rcases differ input different with rejected | rejected
    · exact report_drain_ne progress rejected (fun bad => different (rejected.trans bad.symm)) reports
    · exact report_drain_ne progress' rejected (fun bad => different (bad.trans rejected.symm))
        reports.symm
  constructor
  · intro reports start reached
    induction reached with
    | here input => exact same reports
    | later verdict next ih =>
      have agrees := (same reports).trans verdict
      rw [drain_item progress verdict, drain_item progress' agrees] at reports
      exact ih (by simpa [report] using reports)
  · intro agree
    rw [drain_congr progress progress' agree]

end Comparing

/-! ### Feeding a string in pieces -/

/-- The string a sequence of tagged pieces makes up. -/
def joined (pieces : List (List β × τ)) : List β := (pieces.map Prod.fst).flatten

@[simp] theorem joined_nil : joined ([] : List (List β × τ)) = [] := rfl

@[simp] theorem joined_cons (piece : List β × τ) (pieces : List (List β × τ)) :
    joined (piece :: pieces) = piece.1 ++ joined pieces := rfl

@[simp] theorem joined_append (pieces pieces' : List (List β × τ)) :
    joined (pieces ++ pieces') = joined pieces ++ joined pieces' := by
  simp [joined]

/-- Going on with what is left over, unless it was rejected. -/
def andThen (next : List β → List α × Option (List β)) :
    List α × Option (List β) → List α × Option (List β)
  | (items, none) => (items, none)
  | (items, some rest) => (items ++ (next rest).1, (next rest).2)

/-- Draining after each piece, until a rejection. -/
def feed (classify : τ → List β → Verdict α) :
    List (List β × τ) → List β → List α × Option (List β)
  | [], pending => ([], some pending)
  | piece :: pieces, pending =>
    andThen (feed classify pieces) (drain (classify piece.2) (pending ++ piece.1))

/-- A place in the string where the input was cut so that its tag makes the
classifier reject what it should wait for. -/
def Cut (early : τ → List β → Prop) (pieces : List (List β × τ)) (start : List β) : Prop :=
  ∃ before piece after front, pieces = before ++ piece :: after ∧
    start = front ++ joined after ∧ early piece.2 front

open Classical in
/-- The classifier of the uncut string, rejecting at the bad cuts. -/
noncomputable def withCuts (base : List β → Verdict α) (early : τ → List β → Prop)
    (pieces : List (List β × τ)) (start : List β) : Verdict α :=
  if Cut early pieces start then .bad else base start

variable {base : List β → Verdict α} {piece : List β × τ} {front : List β}

theorem withCuts_of_cut (cut : Cut early pieces start) :
    withCuts base early pieces start = .bad :=
  if_pos cut

theorem withCuts_of_not_cut (whole : ¬ Cut early pieces start) :
    withCuts base early pieces start = base start :=
  if_neg whole

/-- An item of the classifier with cuts is one without. -/
theorem base_of_withCuts (verdict : withCuts base early pieces start = .item consumed value) :
    base start = .item consumed value := by
  by_cases cut : Cut early pieces start
  · rw [withCuts_of_cut cut] at verdict
    cases verdict
  · rwa [withCuts_of_not_cut cut] at verdict

theorem withCuts_progress (progress : Progress base) (early : τ → List β → Prop)
    (pieces : List (List β × τ)) :
    Progress (withCuts base early pieces) :=
  fun input consumed value verdict => progress input consumed value (base_of_withCuts verdict)

/-- Against the first piece, a cut lies at its end or at the end of a later one. -/
theorem cut_cons_iff :
    Cut early (piece :: pieces) start ↔
      (∃ front, start = front ++ joined pieces ∧ early piece.2 front) ∨ Cut early pieces start := by
  constructor
  · rintro ⟨before, chosen, after, front, split, rfl, rejects⟩
    cases before with
    | nil =>
      rw [List.nil_append, List.cons.injEq] at split
      obtain ⟨rfl, rfl⟩ := split
      exact .inl ⟨front, rfl, rejects⟩
    | cons first before =>
      rw [List.cons_append, List.cons.injEq] at split
      exact .inr ⟨before, chosen, after, front, split.2, rfl, rejects⟩
  · rintro (⟨front, rfl, rejects⟩ | ⟨before, chosen, after, front, rfl, rfl, rejects⟩)
    · exact ⟨[], piece, pieces, front, rfl, rfl, rejects⟩
    · exact ⟨piece :: before, chosen, after, front, rfl, rfl, rejects⟩

/-- A first piece that does not reject here can be forgotten. -/
theorem withCuts_cons (harmless : ∀ front, start = front ++ joined pieces → ¬ early piece.2 front) :
    withCuts base early (piece :: pieces) start = withCuts base early pieces start := by
  have same : Cut early (piece :: pieces) start ↔ Cut early pieces start := by
    rw [cut_cons_iff]
    exact or_iff_right fun ⟨front, equal, rejects⟩ => harmless front equal rejects
  by_cases cut : Cut early pieces start
  · rw [withCuts_of_cut cut, withCuts_of_cut (same.mpr cut)]
  · rw [withCuts_of_not_cut cut, withCuts_of_not_cut (same.not.mpr cut)]

/-- An item that the front alone did not complete reaches past it. -/
theorem front_lt_consumed (framing : Framing base) {later : List β} (undecided : base front = .more)
    (verdict : base (front ++ later) = .item consumed value) : front.length < consumed := by
  refine Nat.lt_of_not_le fun inside => ?_
  have short := framing.tight _ _ _ verdict
  rw [List.take_append_of_le_length inside] at short
  have decided : base (front.take consumed) ≠ .more := by simp [short]
  have whole := framing.stable (front.take consumed) (front.drop consumed) decided
  rw [List.take_append_drop, undecided, short] at whole
  cases whole

/-- While the front waits, a cut at its end that does not reject can be forgotten: the
next item reaches past it. -/
theorem drain_withCuts_cons (framing : Framing base)
    (undecided : base front = .more) (harmless : ¬ early piece.2 front) :
    drain (withCuts base early (piece :: pieces)) (front ++ joined pieces) =
      drain (withCuts base early pieces) (front ++ joined pieces) := by
  have progress := withCuts_progress framing.progress early
  apply drain_congr (progress _) (progress _)
  intro start reached
  apply withCuts_cons
  rintro front' rfl rejects
  generalize whole : front ++ joined pieces = input at reached
  generalize place : front' ++ joined pieces = start at reached
  cases reached with
  | here =>
    rw [List.append_cancel_right (place.trans whole.symm)] at rejects
    exact harmless rejects
  | later verdict next =>
    have found := base_of_withCuts verdict
    rw [← whole] at found
    have beyond := front_lt_consumed framing undecided found
    have inside := (framing.progress _ _ _ found).2
    have short := start_length_le next
    rw [← place, ← whole, List.length_drop, List.length_append, List.length_append] at short
    rw [List.length_append] at inside
    omega

section Feeding

variable {base : List β → Verdict α} {early : τ → List β → Prop}
  {classify : τ → List β → Verdict α} (framing : Framing base)
  (waits : ∀ tag front, early tag front → base front = .more)
  (rejects : ∀ tag front, early tag front → classify tag front = .bad)
  (follows : ∀ tag front, ¬ early tag front → classify tag front = base front)

include framing waits in
/-- Where the front decides, no later cut can matter. -/
theorem not_cut_of_decided {pieces : List (List β × τ)}
    (decided : base front ≠ .more) : ¬ Cut early pieces (front ++ joined pieces) := by
  rintro ⟨before, piece, after, front', rfl, same, rejects⟩
  rw [joined_append, joined_cons, ← List.append_assoc, ← List.append_assoc] at same
  have longer := List.append_cancel_right same
  have undecided := waits _ _ rejects
  rw [← longer, List.append_assoc, framing.stable front _ decided] at undecided
  exact decided undecided

include rejects follows in
theorem classify_base {tag : τ} {result : Verdict α}
    (verdict : classify tag front = result) (accepted : result ≠ .bad) :
    ¬ early tag front ∧ base front = result := by
  by_cases cut : early tag front
  · exact absurd (verdict.symm.trans (rejects tag front cut)) accepted
  · exact ⟨cut, (follows tag front cut).symm.trans verdict⟩

include framing rejects follows in
theorem classify_progress (tag : τ) : Progress (classify tag) := by
  intro input consumed value verdict
  exact framing.progress input consumed value (classify_base rejects follows verdict nofun).2

include framing waits rejects follows in
/-- One piece: draining what is at hand and then feeding the rest is draining
the whole string, given that for the pieces after it. -/
theorem drain_andThen_feed (piece : List β × τ) {pieces : List (List β × τ)}
    (later : ∀ pending, base pending = .more →
      feed classify pieces pending = drain (withCuts base early pieces) (pending ++ joined pieces))
    (front : List β) :
    andThen (feed classify pieces) (drain (classify piece.2) front) =
      drain (withCuts base early (piece :: pieces)) (front ++ joined pieces) := by
  have progress := classify_progress framing rejects follows piece.2
  have cutProgress := withCuts_progress framing.progress early (piece :: pieces)
  have decidedHere : ∀ front, ¬ early piece.2 front → base front ≠ .more →
      withCuts base early (piece :: pieces) (front ++ joined pieces) = base front := by
    intro front harmless decided
    rw [withCuts_of_not_cut, framing.stable front _ decided]
    intro cut
    rcases cut_cons_iff.mp cut with ⟨front', same, cutHere⟩ | cutLater
    · rw [← List.append_cancel_right same] at cutHere
      exact harmless cutHere
    · exact not_cut_of_decided framing waits decided cutLater
  induction front using drain_induction progress with
  | item front consumed value verdict ih =>
    obtain ⟨harmless, baseVerdict⟩ := classify_base rejects follows verdict nofun
    have inside := (progress _ _ _ verdict).2
    have whole := decidedHere front harmless (by simp [baseVerdict])
    rw [drain_item progress verdict, drain_item cutProgress (whole.trans baseVerdict),
      List.drop_append_of_le_length inside, ← ih]
    obtain ⟨values, tail⟩ := drain (classify piece.2) (front.drop consumed)
    cases tail with
    | none => rfl
    | some tail => rfl
  | more front verdict =>
    obtain ⟨harmless, undecided⟩ := classify_base rejects follows verdict nofun
    rw [drain_more verdict, drain_withCuts_cons framing undecided harmless,
      ← later front undecided]
    rfl
  | bad front verdict =>
    rw [drain_bad verdict]
    by_cases cut : early piece.2 front
    · rw [drain_bad (withCuts_of_cut (cut_cons_iff.mpr (.inl ⟨front, rfl, cut⟩)))]
      rfl
    · have baseVerdict := (follows _ _ cut).symm.trans verdict
      have whole := decidedHere front cut (by simp [baseVerdict])
      rw [drain_bad (whole.trans baseVerdict)]
      rfl

include framing waits rejects follows in
/-- Feeding a string in pieces is draining it whole, with the rejecting cuts marked. -/
theorem feed_eq_drain :
    ∀ (pieces : List (List β × τ)) (pending : List β), base pending = .more →
      feed classify pieces pending = drain (withCuts base early pieces) (pending ++ joined pieces)
  | [], pending, undecided => by
    have uncut : ¬ Cut early ([] : List (List β × τ)) pending := by
      rintro ⟨before, piece, after, front, impossible, -⟩
      simp at impossible
    rw [feed, joined_nil, List.append_nil,
      drain_more ((withCuts_of_not_cut uncut).trans undecided)]
  | piece :: pieces, pending, _ => by
    rw [feed, drain_andThen_feed framing waits rejects follows piece (feed_eq_drain pieces),
      List.append_assoc, joined_cons]

end Feeding

end Foundation.Incremental
