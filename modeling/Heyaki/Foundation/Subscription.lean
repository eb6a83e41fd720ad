/-
Purpose: two parties that hold subscriptions at each other, told by notices over
channels that deliver in order.

A party lists the subscriptions it holds, and serves those it has taken up for its
peer.  It may refuse or end one.  Nothing here removes a subscription from the list of
its holder but the holder, so a refusal has to meet one that its holder has given up.
-/
import Mathlib

namespace Foundation.Subscription

open List

variable {ι : Type*}

inductive Notice (ι : Type*) where
  | subscribe (id : ι)
  | unsubscribe (id : ι)

def Notice.id : Notice ι → ι
  | .subscribe id => id
  | .unsubscribe id => id

@[ext] structure Party (ι : Type*) where
  /-- The subscriptions it holds at its peer. -/
  listed : Set ι
  /-- The subscriptions of its peer that it serves. -/
  live : Set ι
  /-- The subscriptions of its peer that it has refused or ended. -/
  refused : Set ι
  /-- What is under way to its peer. -/
  outgoing : List (Notice ι)

/-- Both parties, from the side of the one that acts. -/
@[ext] structure Pair (ι : Type*) where
  acting : Party ι
  peer : Party ι
  drawn : Set ι

def Pair.swap (pair : Pair ι) : Pair ι := { pair with acting := pair.peer, peer := pair.acting }

/-- What the acting party may do.  A notice may get lost before it is under way, but for
the one that asks for a subscription. -/
inductive Step : Pair ι → Pair ι → Prop
  | draw {pair : Pair ι} (id : ι) : Step pair { pair with drawn := insert id pair.drawn }
  | announce {pair : Pair ι} {id : ι} (fresh : id ∉ pair.drawn) :
      Step pair { pair with
        acting := { pair.acting with
          listed := insert id pair.acting.listed
          outgoing := pair.acting.outgoing ++ [.subscribe id] }
        drawn := insert id pair.drawn }
  | withdraw {pair : Pair ι} {id : ι} (listed : id ∈ pair.acting.listed)
      {notices : List (Notice ι)} (told : ∀ notice ∈ notices, notice = .unsubscribe id) :
      Step pair { pair with acting := { pair.acting with
        listed := pair.acting.listed \ {id}
        outgoing := pair.acting.outgoing ++ notices } }
  | accept {pair : Pair ι} {id : ι} {rest : List (Notice ι)}
      (arrives : pair.peer.outgoing = .subscribe id :: rest) :
      Step pair { pair with
        acting := { pair.acting with live := insert id pair.acting.live }
        peer := { pair.peer with outgoing := rest } }
  | refuse {pair : Pair ι} {id : ι} {rest : List (Notice ι)}
      (arrives : pair.peer.outgoing = .subscribe id :: rest) (givenUp : id ∉ pair.peer.listed) :
      Step pair { pair with
        acting := { pair.acting with refused := insert id pair.acting.refused }
        peer := { pair.peer with outgoing := rest } }
  | close {pair : Pair ι} {id : ι} (served : id ∈ pair.acting.live)
      (givenUp : id ∉ pair.peer.listed) :
      Step pair { pair with
        acting := { pair.acting with refused := insert id pair.acting.refused } }
  | tell {pair : Pair ι} {id : ι} (refused : id ∈ pair.acting.refused)
      {notices : List (Notice ι)} (told : ∀ notice ∈ notices, notice = .unsubscribe id) :
      Step pair { pair with acting := { pair.acting with
        live := pair.acting.live \ {id}
        outgoing := pair.acting.outgoing ++ notices } }
  | release {pair : Pair ι} {id : ι} {rest : List (Notice ι)}
      (arrives : pair.peer.outgoing = .unsubscribe id :: rest) :
      Step pair { pair with
        acting := { pair.acting with live := pair.acting.live \ {id} }
        peer := { pair.peer with outgoing := rest } }

abbrev Steps : Pair ι → Pair ι → Prop := Relation.ReflTransGen Step

/-- What a holder may rely on. -/
structure Holds (holder source : Party ι) (drawn : Set ι) : Prop where
  known : ∀ id ∈ holder.listed, .subscribe id ∈ holder.outgoing ∨ id ∈ source.live
  kept : ∀ id ∈ holder.listed, .unsubscribe id ∉ holder.outgoing
  observed : ∀ id ∈ holder.listed, id ∉ source.refused
  /-- The two parties hold different subscriptions. -/
  apart : ∀ id ∈ holder.listed,
    id ∉ holder.live ∧ id ∉ holder.refused ∧ .subscribe id ∉ source.outgoing
  drawnListed : holder.listed ⊆ drawn
  drawnLive : holder.live ⊆ drawn
  drawnRefused : holder.refused ⊆ drawn
  drawnOutgoing : ∀ notice ∈ holder.outgoing, notice.id ∈ drawn

def Agrees (pair : Pair ι) : Prop :=
  Holds pair.acting pair.peer pair.drawn ∧ Holds pair.peer pair.acting pair.drawn

variable {pair : Pair ι}

theorem Agrees.swap (agrees : Agrees pair) : Agrees pair.swap := ⟨agrees.2, agrees.1⟩

namespace Holds

variable {holder source : Party ι} {drawn : Set ι} {id : ι} {notices rest : List (Notice ι)}
  {notice : Notice ι}

section

variable (holds : Holds holder source drawn)

include holds

theorem draw (id : ι) : Holds holder source (insert id drawn) :=
  have wider : drawn ⊆ insert id drawn := Set.subset_insert ..
  { holds with
    drawnListed := holds.drawnListed.trans wider
    drawnLive := holds.drawnLive.trans wider
    drawnRefused := holds.drawnRefused.trans wider
    drawnOutgoing := fun notice member => wider (holds.drawnOutgoing notice member) }

/-! ### Changes of the holder -/

theorem announce (fresh : id ∉ drawn) (unrefused : source.refused ⊆ drawn)
    (unasked : .subscribe id ∉ source.outgoing) :
    Holds { holder with
      listed := insert id holder.listed, outgoing := holder.outgoing ++ [.subscribe id] }
      source (insert id drawn) := by
  refine { holds.draw id with
    known := ?_, kept := ?_, observed := ?_, apart := ?_, drawnListed := ?_, drawnOutgoing := ?_ }
  · rintro other (rfl | listed)
    · exact .inl (mem_append_right _ (mem_singleton_self _))
    · exact (holds.known other listed).imp_left (mem_append_left _)
  · intro other listed member
    have old : .unsubscribe other ∈ holder.outgoing := by simpa using member
    rcases listed with rfl | listed
    · exact fresh (holds.drawnOutgoing _ old)
    · exact holds.kept other listed old
  · rintro other (rfl | listed)
    · exact fun member => fresh (unrefused member)
    · exact holds.observed other listed
  · rintro other (rfl | listed)
    · exact ⟨fun member => fresh (holds.drawnLive member),
        fun member => fresh (holds.drawnRefused member), unasked⟩
    · exact holds.apart other listed
  · exact Set.insert_subset_insert holds.drawnListed
  · intro notice member
    rcases mem_append.mp member with old | new
    · exact (holds.draw id).drawnOutgoing notice old
    · cases mem_singleton.mp new
      exact Set.mem_insert ..

theorem listed_erase (id : ι) : Holds { holder with listed := holder.listed \ {id} } source drawn :=
  { holds with
    known := fun other still => holds.known other still.1
    kept := fun other still => holds.kept other still.1
    observed := fun other still => holds.observed other still.1
    apart := fun other still => holds.apart other still.1
    drawnListed := fun _ still => holds.drawnListed still.1 }

/-- Notices that give up what the holder does not list. -/
theorem tell (unlisted : id ∉ holder.listed) (isDrawn : id ∈ drawn)
    (told : ∀ notice ∈ notices, notice = .unsubscribe id) :
    Holds { holder with outgoing := holder.outgoing ++ notices } source drawn := by
  refine { holds with known := ?_, kept := ?_, drawnOutgoing := ?_ }
  · exact fun other listed => (holds.known other listed).imp_left (mem_append_left _)
  · intro other listed member
    rcases mem_append.mp member with old | new
    · exact holds.kept other listed old
    · exact unlisted (Notice.unsubscribe.inj (told _ new) ▸ listed)
  · intro notice member
    rcases mem_append.mp member with old | new
    · exact holds.drawnOutgoing notice old
    · rw [told notice new]
      exact isDrawn

/-- A notice arrives; one that asks for a listed subscription leaves it served. -/
theorem outgoing_pop (arrives : holder.outgoing = notice :: rest)
    (served : ∀ id ∈ holder.listed, notice = .subscribe id → id ∈ source.live) :
    Holds { holder with outgoing := rest } source drawn := by
  have later : ∀ {notice}, notice ∈ rest → notice ∈ holder.outgoing := fun member =>
    arrives ▸ mem_cons_of_mem _ member
  refine { holds with known := ?_, kept := ?_, drawnOutgoing := ?_ }
  · intro other listed
    rcases holds.known other listed with underWay | live
    · rw [arrives] at underWay
      rcases mem_cons.mp underWay with same | still
      · exact .inr (served other listed same.symm)
      · exact .inl still
    · exact .inr live
  · exact fun other listed member => holds.kept other listed (later member)
  · exact fun notice member => holds.drawnOutgoing notice (later member)

theorem live_insert (unlisted : id ∉ holder.listed) (isDrawn : id ∈ drawn) :
    Holds { holder with live := insert id holder.live } source drawn := by
  refine { holds with apart := ?_, drawnLive := Set.insert_subset isDrawn holds.drawnLive }
  intro other listed
  obtain ⟨live, apart⟩ := holds.apart other listed
  refine ⟨?_, apart⟩
  rintro (rfl | served)
  · exact unlisted listed
  · exact live served

theorem live_erase (id : ι) : Holds { holder with live := holder.live \ {id} } source drawn :=
  { holds with
    apart := fun other listed =>
      ⟨fun served => (holds.apart other listed).1 served.1, (holds.apart other listed).2⟩
    drawnLive := fun _ served => holds.drawnLive served.1 }

theorem refused_insert (unlisted : id ∉ holder.listed) (isDrawn : id ∈ drawn) :
    Holds { holder with refused := insert id holder.refused } source drawn := by
  refine { holds with apart := ?_, drawnRefused := Set.insert_subset isDrawn holds.drawnRefused }
  intro other listed
  obtain ⟨live, refused, unasked⟩ := holds.apart other listed
  refine ⟨live, ?_, unasked⟩
  rintro (rfl | before)
  · exact unlisted listed
  · exact refused before

/-! ### Changes of the source -/

theorem source_listed (listed : Set ι) : Holds holder { source with listed := listed } drawn :=
  { holds with }

/-- The source asks for nothing that the holder lists. -/
theorem source_outgoing
    (unasked : ∀ id ∈ holder.listed, .subscribe id ∈ notices → .subscribe id ∈ source.outgoing) :
    Holds holder { source with outgoing := notices } drawn := by
  refine { holds with apart := ?_ }
  intro other listed
  obtain ⟨live, refused, outgoing⟩ := holds.apart other listed
  exact ⟨live, refused, fun member => outgoing (unasked other listed member)⟩

theorem source_tell (told : ∀ notice ∈ notices, notice = .unsubscribe id) :
    Holds holder { source with outgoing := source.outgoing ++ notices } drawn := by
  apply holds.source_outgoing
  intro other _ member
  refine (mem_append.mp member).resolve_right fun new => ?_
  cases told _ new

theorem source_pop (arrives : source.outgoing = notice :: rest) :
    Holds holder { source with outgoing := rest } drawn := by
  apply holds.source_outgoing
  intro other _ member
  rw [arrives]
  exact mem_cons_of_mem _ member

theorem source_live_insert (id : ι) :
    Holds holder { source with live := insert id source.live } drawn :=
  { holds with known := fun other listed => (holds.known other listed).imp_right .inr }

theorem source_live_erase (unlisted : id ∉ holder.listed) :
    Holds holder { source with live := source.live \ {id} } drawn := by
  refine { holds with known := ?_ }
  intro other listed
  refine (holds.known other listed).imp_right fun served => ⟨served, ?_⟩
  rintro rfl
  exact unlisted listed

theorem source_refused_insert (unlisted : id ∉ holder.listed) :
    Holds holder { source with refused := insert id source.refused } drawn := by
  refine { holds with observed := ?_ }
  rintro other listed (rfl | before)
  · exact unlisted listed
  · exact holds.observed other listed before

end

end Holds

theorem Agrees.step {next : Pair ι} (agrees : Agrees pair) (step : Step pair next) :
    Agrees next := by
  obtain ⟨mine, theirs⟩ := agrees
  cases step with
  | draw id => exact ⟨mine.draw id, theirs.draw id⟩
  | @announce id fresh =>
    have unasked : .subscribe id ∉ pair.peer.outgoing := fun member =>
      fresh (theirs.drawnOutgoing _ member)
    refine ⟨mine.announce fresh theirs.drawnRefused unasked,
      ((theirs.draw id).source_listed _).source_outgoing ?_⟩
    intro other listed member
    refine (mem_append.mp member).resolve_right fun new => fresh ?_
    cases mem_singleton.mp new
    exact theirs.drawnListed listed
  | @withdraw id listed notices told =>
    exact ⟨(mine.listed_erase id).tell (fun still => still.2 rfl) (mine.drawnListed listed) told,
      (theirs.source_listed _).source_tell told⟩
  | @accept id rest arrives =>
    have first : .subscribe id ∈ pair.peer.outgoing := arrives ▸ mem_cons_self ..
    have unlisted : id ∉ pair.acting.listed := fun listed => (mine.apart id listed).2.2 first
    refine ⟨(mine.live_insert unlisted (theirs.drawnOutgoing _ first)).source_pop arrives,
      (theirs.source_live_insert id).outgoing_pop arrives ?_⟩
    rintro other - same
    exact .inl (Notice.subscribe.inj same).symm
  | @refuse id rest arrives givenUp =>
    have first : .subscribe id ∈ pair.peer.outgoing := arrives ▸ mem_cons_self ..
    have unlisted : id ∉ pair.acting.listed := fun listed => (mine.apart id listed).2.2 first
    refine ⟨(mine.refused_insert unlisted (theirs.drawnOutgoing _ first)).source_pop arrives,
      (theirs.source_refused_insert givenUp).outgoing_pop arrives ?_⟩
    intro other listed same
    exact absurd (Notice.subscribe.inj same ▸ listed) givenUp
  | @close id served givenUp =>
    have unlisted : id ∉ pair.acting.listed := fun listed => (mine.apart id listed).1 served
    exact ⟨mine.refused_insert unlisted (mine.drawnLive served),
      theirs.source_refused_insert givenUp⟩
  | @tell id refused notices told =>
    have unlisted : id ∉ pair.acting.listed := fun listed => (mine.apart id listed).2.1 refused
    have givenUp : id ∉ pair.peer.listed := fun listed => theirs.observed id listed refused
    exact ⟨(mine.live_erase id).tell unlisted (mine.drawnRefused refused) told,
      (theirs.source_live_erase givenUp).source_tell told⟩
  | @release id rest arrives =>
    have first : .unsubscribe id ∈ pair.peer.outgoing := arrives ▸ mem_cons_self ..
    have givenUp : id ∉ pair.peer.listed := fun listed => theirs.kept id listed first
    exact ⟨(mine.live_erase id).source_pop arrives,
      (theirs.source_live_erase givenUp).outgoing_pop arrives nofun⟩

theorem Agrees.steps {last : Pair ι} (agrees : Agrees pair) (steps : Steps pair last) :
    Agrees last := by
  induction steps with
  | refl => exact agrees
  | tail _ step ih => exact ih.step step

/-- Several subscriptions end at once. -/
theorem Steps.closes {ids : List ι}
    (each : ∀ id ∈ ids, id ∈ pair.acting.live ∧ id ∉ pair.peer.listed) :
    Steps pair { pair with acting := { pair.acting with
      refused := pair.acting.refused ∪ {id | id ∈ ids} } } := by
  induction ids generalizing pair with
  | nil =>
    have same : pair.acting.refused ∪ {id | id ∈ ([] : List ι)} = pair.acting.refused := by
      simp
    rw [same]
  | cons id ids ih =>
    obtain ⟨served, givenUp⟩ := each id (mem_cons_self ..)
    have rest := @ih { pair with
      acting := { pair.acting with refused := insert id pair.acting.refused } }
      fun other member => each other (mem_cons_of_mem _ member)
    have same : insert id pair.acting.refused ∪ {other | other ∈ ids} =
        pair.acting.refused ∪ {other | other ∈ id :: ids} := by
      ext other
      simp only [Set.mem_union, Set.mem_insert_iff, Set.mem_ofPred_eq, mem_cons]
      tauto
    rw [← same]
    exact .head (.close served givenUp) rest

/-- Once nothing is under way, what a party lists is served. -/
theorem Agrees.served (agrees : Agrees pair) (quiet : pair.acting.outgoing = []) {id : ι}
    (listed : id ∈ pair.acting.listed) : id ∈ pair.peer.live := by
  rcases agrees.1.known id listed with underWay | live
  · rw [quiet] at underWay
    cases underWay
  · exact live

end Foundation.Subscription
