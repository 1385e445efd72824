import Mathlib.Data.List.Chain
import Mathlib.Data.List.Forall2
import SuiteAudit.Proofs.Universe.Calls

/-!
# Cataloging

A pass over a universe adds the calls of steps that a definition matches, and calls of steps with
interpolations only while none is known. What is recorded stays, so the result depends on all passes.
Over universes that grow it still says of the last one what it should: `Cataloged` is established by
every pass (`Sound.catalog`) and kept by a repeated one (`Cataloged.catalog_eq`).
-/

namespace SuiteAudit

namespace Universe

/-- Every entry of `u` is an entry of `v`, where paths are compared by their components. -/
def Within (u v : Universe) : Prop := ∀ l t, u.step? l = some t → v.step? l = some t

theorem step?_of_mem {u : Universe} {e : StepLocation × Text} (member : e ∈ u) {l : StepLocation}
    (same : l.order e.1 = .eq) : u.step? l = some e.2 :=
  Sorted.get?_of_mem u.ordered member same

theorem within_of_subset {u v : Universe} (subset : ∀ e ∈ u, e ∈ v) : u.Within v := by
  intro l t found
  obtain ⟨e, member, same, rfl⟩ := Sorted.exists_of_get? found
  exact step?_of_mem (subset e member) same

def matched (u : Universe) (d : StepDefinition) : List (StepLocation × Text) :=
  u.calls.filter fun e => d.isMatch e.2

def reaching (u : Universe) (d : StepDefinition) : List (StepLocation × Text) :=
  (u.interpolated.filter fun e => e.2.isMatch (unanchored d.source)).map Prod.fst

end Universe

namespace StepDefinition

/-- The text has interpolations and may reach the definition. -/
def MayReach (d : StepDefinition) (t : Text) : Prop :=
  ∃ p, reachPattern? t = some p ∧ p.isMatch (unanchored d.source) = true

theorem mem_matched {u : Universe} {d : StepDefinition} {e : StepLocation × Text} :
    e ∈ u.matched d ↔ e ∈ u ∧ d.isMatch e.2 = true := List.mem_filter

theorem mem_reaching {u : Universe} {d : StepDefinition} {e : StepLocation × Text} :
    e ∈ u.reaching d ↔ e ∈ u ∧ d.MayReach e.2 := by
  simp only [Universe.reaching, Universe.interpolated, List.mem_map, List.mem_filter,
    List.mem_filterMap, Option.map_eq_some_iff, MayReach]
  constructor
  · rintro ⟨_, ⟨⟨e', member, p, pattern, rfl⟩, hit⟩, rfl⟩
    exact ⟨member, p, pattern, hit⟩
  · rintro ⟨member, p, pattern, hit⟩
    exact ⟨(e, p), ⟨⟨e, member, p, pattern, rfl⟩, hit⟩, rfl⟩

/-! ## One pass -/

theorem addCalls_eq (d : StepDefinition) (calls : List (StepLocation × Text)) :
    d.addCalls calls = { d with calls := Sorted.insertAll StepLocation.order calls d.calls } := by
  unfold addCalls
  induction calls generalizing d with
  | nil => rfl
  | cons e calls ih =>
      rw [List.foldl_cons, ih]
      rfl

theorem catalog_eq (u : Universe) (d : StepDefinition) :
    d.catalog u =
      if u.matched d = [] ∧ d.calls = [] then
        { d with calls := Sorted.insertAll StepLocation.order (u.reaching d) [] }
      else { d with calls := Sorted.insertAll StepLocation.order (u.matched d) d.calls } := by
  have first : d.addCalls (u.calls.filter fun e => d.isMatch e.2) =
      { d with calls := Sorted.insertAll StepLocation.order (u.matched d) d.calls } :=
    addCalls_eq d _
  have dead : (d.addCalls (u.calls.filter fun e => d.isMatch e.2)).isDead = true ↔
      u.matched d = [] ∧ d.calls = [] := by
    rw [first, isDead, List.isEmpty_iff, Sorted.insertAll_eq_nil_iff]
  simp only [catalog, dead]
  split
  · rename_i nothing
    rw [first, addCalls_eq]
    simp only [nothing, Sorted.insertAll_nil]
    rfl
  · exact first

/-- What is recorded are steps of the universe that reach the definition. -/
structure Sound (u : Universe) (d : StepDefinition) : Prop where
  ordered : Sorted.Ordered StepLocation.order d.calls
  entry : ∀ e ∈ d.calls, u.step? e.1 = some e.2
  reached : ∀ e ∈ d.calls, d.isMatch e.2 = true ∨ d.MayReach e.2

theorem sound_of_fresh (u : Universe) {d : StepDefinition} (fresh : d.calls = []) : Sound u d := by
  constructor
  · rw [fresh]
    exact Sorted.ordered_nil
  · simp [fresh]
  · simp [fresh]

theorem Sound.mono {u v : Universe} {d : StepDefinition} (sound : Sound u d) (within : u.Within v) :
    Sound v d :=
  ⟨sound.ordered, fun e member => within _ _ (sound.entry e member), sound.reached⟩

/-- Besides that, every step that the definition matches is recorded, and if nothing is recorded no
step may reach it. -/
structure Cataloged (u : Universe) (d : StepDefinition) : Prop extends Sound u d where
  complete : ∀ e ∈ u, d.isMatch e.2 = true → ∃ e' ∈ d.calls, e.1.order e'.1 = .eq ∧ e'.2 = e.2
  unreached : d.calls = [] → ∀ e ∈ u, ¬ d.MayReach e.2

theorem Sound.insertAll {u : Universe} {d : StepDefinition} (sound : Sound u d)
    {calls : List (StepLocation × Text)}
    (entries : ∀ e ∈ calls, e ∈ u ∧ (d.isMatch e.2 = true ∨ d.MayReach e.2)) :
    Sound u { d with calls := Sorted.insertAll StepLocation.order calls d.calls } := by
  refine ⟨Sorted.insertAll_ordered calls sound.ordered, fun e member => ?_, fun e member => ?_⟩
  · rcases Sorted.mem_insertAll member with old | ⟨e', inserted, same, text⟩
    · exact sound.entry e old
    · rw [← text]
      exact Universe.step?_of_mem (entries e' inserted).1 (Std.OrientedCmp.eq_symm same)
  · rcases Sorted.mem_insertAll member with old | ⟨e', inserted, same, text⟩
    · exact sound.reached e old
    · rw [← text]
      exact (entries e' inserted).2

theorem Sound.catalog {u : Universe} {d : StepDefinition} (sound : Sound u d) :
    Cataloged u (d.catalog u) := by
  rw [catalog_eq]
  split
  · rename_i nothing
    have empty : Sound u { d with calls := [] } := sound_of_fresh u rfl
    refine ⟨empty.insertAll fun e member => ?_, fun e member hit => ?_, fun dead e member => ?_⟩
    · exact (mem_reaching.mp member).imp id .inr
    · have : e ∈ u.matched d := mem_matched.mpr ⟨member, hit⟩
      rw [nothing.1] at this
      exact absurd this (by simp)
    · intro reach
      have : e ∈ u.reaching d := mem_reaching.mpr ⟨member, reach⟩
      rw [(Sorted.insertAll_eq_nil_iff.mp dead).1] at this
      exact absurd this (by simp)
  · rename_i something
    refine ⟨sound.insertAll fun e member => ?_, fun e member hit => ?_, fun dead => ?_⟩
    · exact (mem_matched.mp member).imp id .inl
    · exact Sorted.exists_mem_insertAll (u.ordered.distinct.sublist List.filter_sublist)
        (mem_matched.mpr ⟨member, hit⟩)
    · exact absurd (Sorted.insertAll_eq_nil_iff.mp dead) something

theorem Cataloged.isDead_iff {u : Universe} {d : StepDefinition} (cataloged : Cataloged u d) :
    d.isDead = true ↔ (∀ e ∈ u, d.isMatch e.2 = false) ∧ ∀ e ∈ u, ¬ d.MayReach e.2 := by
  rw [isDead, List.isEmpty_iff]
  constructor
  · intro dead
    refine ⟨fun e member => ?_, cataloged.unreached dead⟩
    cases hit : d.isMatch e.2 with
    | false => rfl
    | true =>
        obtain ⟨e', recorded, -⟩ := cataloged.complete e member hit
        rw [dead] at recorded
        exact absurd recorded (by simp)
  · rintro ⟨unmatched, unreached⟩
    -- A recorded call would be an entry of the universe that reaches the definition.
    refine List.eq_nil_iff_forall_not_mem.mpr fun e member => ?_
    obtain ⟨e', entry, -, text⟩ := Sorted.exists_of_get? (cataloged.entry e member)
    rcases cataloged.reached e member with hit | reach
    · rw [← text, unmatched e' entry] at hit
      cases hit
    · rw [← text] at reach
      exact unreached e' entry reach

theorem Cataloged.catalog_eq {u : Universe} {d : StepDefinition} (cataloged : Cataloged u d) :
    d.catalog u = d := by
  rw [StepDefinition.catalog_eq]
  split
  · rename_i nothing
    have none : u.reaching d = [] :=
      List.eq_nil_iff_forall_not_mem.mpr fun e member =>
        cataloged.unreached nothing.2 e (mem_reaching.mp member).1 (mem_reaching.mp member).2
    rw [none, Sorted.insertAll_nil, ← nothing.2]
  · rw [Sorted.insertAll_eq_self cataloged.ordered]
    intro e member
    obtain ⟨entry, hit⟩ := mem_matched.mp member
    exact cataloged.complete e entry hit

/-! ## Passes over universes that grow -/

theorem foldl_catalog_cataloged {us : List Universe} {last : Universe}
    (growing : (us ++ [last]).IsChain Universe.Within) {d : StepDefinition}
    (sound : ∀ u ∈ (us ++ [last]).head?, Sound u d) :
    Cataloged last ((us ++ [last]).foldl (fun d u => d.catalog u) d) := by
  induction us generalizing d with
  | nil => exact (sound last rfl).catalog
  | cons u us ih =>
      have pass := (sound u rfl).catalog
      obtain ⟨next, rest⟩ := List.isChain_cons.mp growing
      exact ih rest fun v head => pass.toSound.mono (next v head)

theorem catalog_of_fresh {u : Universe} {d : StepDefinition} (fresh : d.calls = [])
    (hit : ∃ e ∈ u, d.isMatch e.2 = true) : d.catalog u = { d with calls := u.matched d } := by
  obtain ⟨e, member, hit⟩ := hit
  have something : ¬ (u.matched d = [] ∧ d.calls = []) := by
    rintro ⟨nothing, -⟩
    have : e ∈ u.matched d := mem_matched.mpr ⟨member, hit⟩
    rw [nothing] at this
    exact absurd this (by simp)
  have matchedOrdered : Sorted.Ordered StepLocation.order (u.matched d) :=
    List.Pairwise.sublist List.filter_sublist u.ordered
  rw [catalog_eq, if_neg something, fresh, Sorted.insertAll_of_ordered matchedOrdered]

theorem catalog_fields (u : Universe) (d : StepDefinition) :
    d.catalog u = { d with calls := (d.catalog u).calls } := by
  rw [catalog_eq]
  split <;> rfl

theorem catalog_card (u : Universe) (d : StepDefinition) : (d.catalog u).card = d.card := by
  rw [catalog_fields]

theorem foldl_catalog_fields (us : List Universe) (d : StepDefinition) :
    us.foldl (fun d u => d.catalog u) d =
      { d with calls := (us.foldl (fun d u => d.catalog u) d).calls } := by
  induction us generalizing d with
  | nil => rfl
  | cons u us ih =>
      rw [List.foldl_cons, ih, catalog_fields]

end StepDefinition

theorem Suite.foldl_catalog_definitions (us : List Universe) (s : Suite) :
    (us.foldl (fun s u => s.catalog u) s).definitions =
      s.definitions.map fun d => us.foldl (fun d u => d.catalog u) d := by
  induction us generalizing s with
  | nil => simp
  | cons u us ih =>
      rw [List.foldl_cons, ih, Suite.catalog, List.map_map]
      rfl

/-- Passes over universes each of which holds the entries of the one before. Of every definition that
had no calls at first, the calls are entries of the last universe; it is dead iff no entry of the last
universe is matched and none may reach it; after a single pass with a match the calls are what is
matched; and one more pass over the last universe changes nothing. -/
theorem Suite.catalog_passes (s : Suite) (us : List Universe) (last : Universe)
    (fresh : ∀ d ∈ s.definitions, d.calls = [])
    (growing : (us ++ [last]).IsChain Universe.Within) :
    List.Forall₂ (fun before after : StepDefinition =>
        after = { before with calls := after.calls } ∧
        (∀ e ∈ after.calls, last.step? e.1 = some e.2) ∧
        (after.isDead = true ↔ (∀ e ∈ last, after.isMatch e.2 = false) ∧
          ∀ e ∈ last, ∀ p, reachPattern? e.2 = some p → p.isMatch (unanchored after.source) = false) ∧
        (us = [] → (∃ e ∈ last, after.isMatch e.2 = true) →
          after.calls = last.calls.filter fun e => after.isMatch e.2) ∧
        after.catalog last = after)
      s.definitions ((us ++ [last]).foldl (fun s u => s.catalog u) s).definitions := by
  rw [Suite.foldl_catalog_definitions, List.forall₂_map_right_iff, List.forall₂_same]
  intro d member
  have cataloged : (((us ++ [last]).foldl (fun d u => d.catalog u) d)).Cataloged last :=
    StepDefinition.foldl_catalog_cataloged growing
      fun u _ => StepDefinition.sound_of_fresh u (fresh d member)
  refine ⟨StepDefinition.foldl_catalog_fields _ d, cataloged.entry, ?_, ?_, cataloged.catalog_eq⟩
  · rw [cataloged.isDead_iff]
    simp [StepDefinition.MayReach]
  · rintro rfl hit
    have matched : ∀ t, (d.catalog last).isMatch t = d.isMatch t := fun t => by
      rw [StepDefinition.catalog_fields]
      rfl
    simp only [List.nil_append, List.foldl_cons, List.foldl_nil, matched] at hit ⊢
    rw [StepDefinition.catalog_of_fresh (fresh d member) hit]
    rfl

/-- A definition, a nested call that may reach it, and a step that it matches. -/
def addingDefinition : StepDefinition where
  card := { location := ⟨⟨"steps.rb"⟩, 1⟩ }
  pattern := Pattern.ofExpression "I add \x7bint\x7d items"
  source := "I add \x7bint\x7d items"
  parameters := ["n"]
  body := []
  nested := []

def addingNested : StepLocation × Text := (⟨⟨⟨"steps.rb"⟩, 5⟩, none⟩, "I add #\x7bn\x7d items")

def addingStep : StepLocation × Text := (⟨⟨⟨"cart.feature"⟩, 3⟩, none⟩, "When I add 2 items")

def nestedAlone : Universe := ⟨[addingNested], by decide⟩

def nestedAndStep : Universe := ⟨[addingStep, addingNested], by decide⟩

/-- The nested call alone is recorded by the first pass and stays beside the step that the second one
finds. -/
theorem Suite.catalog_passes_adding :
    (∀ d ∈ [addingDefinition], d.calls = []) ∧
      ([nestedAlone] ++ [nestedAndStep]).IsChain Universe.Within ∧
      List.Forall₂ (fun before after : StepDefinition =>
          after.source = before.source ∧ after.isDead = false ∧
          after.catalog nestedAndStep = after)
        [addingDefinition]
        (([nestedAlone] ++ [nestedAndStep]).foldl (fun (s : Suite) u => s.catalog u)
          { definitions := [addingDefinition] }).definitions := by
  have fresh : ∀ d ∈ [addingDefinition], d.calls = [] := by decide
  have growing : ([nestedAlone] ++ [nestedAndStep]).IsChain Universe.Within :=
    List.isChain_pair.mpr (Universe.within_of_subset fun _ => List.mem_cons_of_mem _)
  refine ⟨fresh, growing, ?_⟩
  have passes := Suite.catalog_passes { definitions := [addingDefinition] } [nestedAlone]
    nestedAndStep fresh growing
  cases passes with
  | cons adding rest =>
      obtain ⟨fields, -, dead, -, again⟩ := adding
      refine .cons ⟨by rw [fields], ?_, again⟩ .nil
      have hit : addingDefinition.isMatch addingStep.2 = true := by decide +kernel
      refine Bool.eq_false_iff.mpr fun isDead => ?_
      have unmatched := (dead.mp isDead).1 addingStep List.mem_cons_self
      rw [fields] at unmatched
      exact absurd hit (by rw [show addingDefinition.isMatch addingStep.2 = false from unmatched]; simp)

end SuiteAudit
