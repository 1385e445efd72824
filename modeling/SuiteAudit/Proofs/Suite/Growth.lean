import Mathlib.Data.List.Sort
import SuiteAudit.Proofs.Suite.Permutation

/-!
# Suites that grow

More files call more steps, so a definition that is alive in a suite is alive in a larger one,
although other calls may be recorded for it: a step that matches it takes the place of steps that
only may reach it. The dead definitions of the files of a suite can only become fewer.
-/

namespace SuiteAudit

open Universe (DistinctPaths)

/-! ## Calls -/

theorem Universe.DistinctPaths.sublist {files files' : List SourceFile}
    (paths : DistinctPaths files') (sublist : files.Sublist files') : DistinctPaths files :=
  List.Nodup.sublist (sublist.map _) paths

theorem Suite.steps_subset {featureFiles featureFiles' stepFiles stepFiles' : List SourceFile}
    (features : featureFiles.Sublist featureFiles') (steps : stepFiles.Sublist stepFiles')
    (paths : DistinctPaths (featureFiles' ++ stepFiles')) :
    ∀ e ∈ (Suite.ofFiles featureFiles stepFiles).steps,
      e ∈ (Suite.ofFiles featureFiles' stepFiles').steps := by
  intro e member
  have smaller := Universe.build_perm
    (Universe.callsOf_ofFiles_distinct (paths.sublist (features.append steps)))
  have larger := Universe.build_perm (Universe.callsOf_ofFiles_distinct paths)
  rw [Universe.callsOf_ofFiles] at smaller larger
  refine larger.mem_iff.mpr (List.mem_append.mpr ?_)
  refine (List.mem_append.mp (smaller.mem_iff.mp member)).imp ?_ ?_
  · intro called
    obtain ⟨file, source, call⟩ := List.mem_flatMap.mp called
    exact List.mem_flatMap.mpr ⟨file, features.subset source, call⟩
  · intro called
    obtain ⟨file, source, call⟩ := List.mem_flatMap.mp called
    exact List.mem_flatMap.mpr ⟨file, steps.subset source, call⟩

namespace StepDefinition

theorem ofText_calls {file : SourcePath} {t : Text} {d : StepDefinition}
    (member : d ∈ ofText file t) : d.calls = [] := by
  obtain ⟨b, -, declaration, -, rfl⟩ := mem_ofText member
  rfl

theorem isDead_catalog {u : Universe} {d : StepDefinition} (fresh : d.calls = []) :
    (d.catalog u).isDead = true ↔ ∀ e ∈ u, d.isMatch e.2 = false ∧ ¬ d.MayReach e.2 := by
  have cataloged := (sound_of_fresh u fresh).catalog
  have matched (t : Text) : (d.catalog u).isMatch t = d.isMatch t := by
    rw [catalog_fields]
    rfl
  have reached (t : Text) : (d.catalog u).MayReach t ↔ d.MayReach t := by
    rw [catalog_fields]
    rfl
  rw [cataloged.isDead_iff]
  simp only [matched, reached, forall_and]

theorem isDead_catalog_of_subset {u v : Universe} (subset : ∀ e ∈ u, e ∈ v) {d : StepDefinition}
    (fresh : d.calls = []) (dead : (d.catalog v).isDead = true) : (d.catalog u).isDead = true := by
  rw [isDead_catalog fresh] at dead ⊢
  exact fun e member => dead e (subset e member)

/-- A definition that stays dead is not changed. -/
theorem filter_isDead_catalog (u : Universe) {ds : List StepDefinition}
    (fresh : ∀ d ∈ ds, d.calls = []) :
    (ds.map (catalog u)).filter isDead = ds.filter fun d => (d.catalog u).isDead := by
  have unchanged : ∀ d ∈ ds.filter (fun d => (d.catalog u).isDead), d.catalog u = d := by
    intro d member
    obtain ⟨source, dead⟩ := List.mem_filter.mp member
    rw [isDead, List.isEmpty_iff] at dead
    rw [catalog_fields, dead, ← fresh d source]
  rw [List.filter_map]
  exact (List.map_congr_left unchanged).trans (List.map_id' _)

end StepDefinition

/-! ## Listing the dead -/

namespace DeadSteps

/-- The entries of a listing, file by file, each with its file. -/
def flat (m : Sorted SourcePath (List Text)) : List (SourcePath × Text) :=
  m.flatMap fun f => f.2.map fun e => (f.1, e)

def entries (d : DeadSteps) : List (SourcePath × Text) := flat d.byFile

theorem flat_alter {m : Sorted SourcePath (List Text)} {file : SourcePath} (e : Text)
    (ordered : Sorted.Ordered SourcePath.order m)
    (last : ∀ f ∈ m, file.order f.1 ≠ .lt) (spelled : ∀ f ∈ m, file.order f.1 = .eq → f.1 = file) :
    flat (Sorted.alter SourcePath.order file (fun es => es.getD [] ++ [e]) m) =
      flat m ++ [(file, e)] := by
  induction m with
  | nil => rfl
  | cons head m ih =>
      obtain ⟨path, es⟩ := head
      obtain ⟨least, rest⟩ := Sorted.ordered_cons.mp ordered
      unfold Sorted.alter
      split
      case h_1 less => exact absurd less (last (path, es) List.mem_cons_self)
      case h_2 same =>
        -- All later files would come after the one that is listed, so there are none.
        cases m with
        | nil =>
            obtain rfl : path = file := spelled (path, es) List.mem_cons_self same
            simp [flat]
        | cons next m =>
            have after := least next List.mem_cons_self
            exact absurd (Std.TransCmp.lt_of_eq_of_lt same after)
              (last next (List.mem_cons_of_mem _ List.mem_cons_self))
      case h_3 =>
        have later := ih rest (fun f member => last f (List.mem_cons_of_mem _ member))
          fun f member => spelled f (List.mem_cons_of_mem _ member)
        simpa [flat] using later

theorem flat_foldl {files : List SourcePath} (spelled : ∀ p ∈ files, ∀ q ∈ files, p.order q = .eq → q = p)
    {ds : List StepDefinition} (inFiles : ∀ d ∈ ds, d.card.location.file ∈ files)
    (sorted : ds.Pairwise fun d e => e.card.location.file.order d.card.location.file ≠ .lt)
    {m : Sorted SourcePath (List Text)} (ordered : Sorted.Ordered SourcePath.order m)
    (keys : ∀ f ∈ m, f.1 ∈ files) (last : ∀ f ∈ m, ∀ d ∈ ds, d.card.location.file.order f.1 ≠ .lt) :
    flat (ds.foldl (fun m d => Sorted.alter SourcePath.order d.card.location.file
        (fun es => es.getD [] ++ [entry d]) m) m) =
      flat m ++ ds.map fun d => (d.card.location.file, entry d) := by
  induction ds generalizing m with
  | nil => simp
  | cons d ds ih =>
      obtain ⟨below, rest⟩ := List.pairwise_cons.mp sorted
      have here := inFiles d List.mem_cons_self
      have step := flat_alter (entry d) ordered (fun f member => last f member d List.mem_cons_self)
        fun f member => spelled _ here _ (keys f member)
      -- A file of the longer listing is one of the old ones or that of `d`.
      have known : ∀ f ∈ Sorted.alter SourcePath.order d.card.location.file
          (fun es => es.getD [] ++ [entry d]) m,
          f ∈ m ∨ f.1 = d.card.location.file := by
        intro f member
        rcases Sorted.mem_alter member with old | ⟨same, rfl | ⟨es, old, -⟩⟩
        · exact .inl old
        · exact .inr rfl
        · exact .inr (spelled _ here _ (keys (f.1, es) old) same)
      rw [List.foldl_cons, ih (fun e member => inFiles e (List.mem_cons_of_mem _ member)) rest
        (Sorted.alter_ordered _ _ ordered), step]
      · simp
      · intro f member
        rcases known f member with old | same
        · exact keys f old
        · rwa [same]
      · intro f member e later
        rcases known f member with old | same
        · exact last f old e (List.mem_cons_of_mem _ later)
        · rw [same]
          exact below e later

/-- The dead ones among the definitions in the order in which they are listed. -/
def inOrder (ds : List StepDefinition) : List StepDefinition :=
  (ds.filter StepDefinition.isDead).mergeSort fun d e => d.card.location.order e.card.location != .gt

theorem mem_inOrder {ds : List StepDefinition} {d : StepDefinition} :
    d ∈ inOrder ds ↔ d ∈ ds ∧ d.isDead = true :=
  (List.mergeSort_perm _ _).mem_iff.trans List.mem_filter

theorem inOrder_pairwise {ds : List StepDefinition} (distinct : DistinctPlaces ds) :
    (inOrder ds).Pairwise fun d e => d.card.location.order e.card.location = .lt := by
  have apart : (inOrder ds).Pairwise fun d e => d.card.location.order e.card.location ≠ .eq := by
    refine (List.mergeSort_perm _ _).symm.pairwise (List.Pairwise.sublist List.filter_sublist distinct) ?_
    exact fun differ same => differ (Std.OrientedCmp.eq_symm same)
  refine (apart.and (pairwise_mergeSort_places _)).imp ?_
  rintro d e ⟨differ, notGreater⟩
  cases order : d.card.location.order e.card.location with
  | lt => rfl
  | eq => exact absurd order differ
  | gt => simp [order] at notGreater

theorem entries_collect {ds : List StepDefinition}
    (spelled : ∀ d ∈ ds, ∀ e ∈ ds,
      d.card.location.file.order e.card.location.file = .eq →
        e.card.location.file = d.card.location.file) :
    (collect ds).entries = (inOrder ds).map fun d => (d.card.location.file, entry d) := by
  have files : ∀ p ∈ ds.map (fun d => d.card.location.file),
      ∀ q ∈ ds.map (fun d => d.card.location.file), p.order q = .eq → q = p := by
    simpa using spelled
  have sorted : (inOrder ds).Pairwise
      fun d e => e.card.location.file.order d.card.location.file ≠ .lt := by
    refine (pairwise_mergeSort_places _).imp ?_
    intro d e notGreater less
    have greater := Std.OrientedCmp.gt_of_lt less
    simp [Location.order, greater] at notGreater
  have inFiles : ∀ d ∈ inOrder ds, d.card.location.file ∈ ds.map fun d => d.card.location.file :=
    fun d member => List.mem_map_of_mem (mem_inOrder.mp member).1
  exact flat_foldl files inFiles sorted Sorted.ordered_nil (by simp) (by simp)

end DeadSteps

/-! ## Files added to a suite -/

theorem Criteria.apply_location (c : Criteria) (kind : NodeKind) (card : ScoreCard)
    (vs : List Violation) : (c.apply kind card vs).location = card.location := by
  rw [apply_eq]

theorem Suite.mem_definitions {featureFiles stepFiles : List SourceFile} {d : StepDefinition} :
    d ∈ (Suite.ofFiles featureFiles stepFiles).definitions ↔
      ∃ f ∈ stepFiles, d ∈ StepDefinition.ofText f.path f.text :=
  List.mem_flatMap

theorem Suite.definitions_calls {featureFiles stepFiles : List SourceFile} {d : StepDefinition}
    (member : d ∈ (Suite.ofFiles featureFiles stepFiles).definitions) : d.calls = [] := by
  obtain ⟨f, -, read⟩ := Suite.mem_definitions.mp member
  exact StepDefinition.ofText_calls read

theorem StepDefinition.ofText_file {file : SourcePath} {t : Text} {d : StepDefinition}
    (member : d ∈ ofText file t) : d.card.location.file = file := by
  obtain ⟨line, card⟩ := ofText_card member
  rw [card]

theorem Universe.DistinctPaths.eq_of_components {files : List SourceFile} (paths : DistinctPaths files)
    {f g : SourceFile} (left : f ∈ files) (right : g ∈ files)
    (same : f.path.components = g.path.components) : f = g :=
  List.inj_on_of_nodup_map paths left right same

section Growth

variable {featureFiles featureFiles' stepFiles stepFiles' : List SourceFile}

/-- Files that compare equal are one file, so their path has one spelling. -/
theorem Suite.definitions_spelled (paths : DistinctPaths (featureFiles ++ stepFiles))
    {d e : StepDefinition} (left : d ∈ (Suite.ofFiles featureFiles stepFiles).definitions)
    (right : e ∈ (Suite.ofFiles featureFiles stepFiles).definitions)
    (same : d.card.location.file.order e.card.location.file = .eq) :
    e.card.location.file = d.card.location.file := by
  obtain ⟨f, source, read⟩ := Suite.mem_definitions.mp left
  obtain ⟨g, source', read'⟩ := Suite.mem_definitions.mp right
  rw [StepDefinition.ofText_file read, StepDefinition.ofText_file read', SourcePath.order_eq_iff]
    at same
  have equal := paths.eq_of_components (List.mem_append_right _ source)
    (List.mem_append_right _ source') same
  rw [StepDefinition.ofText_file read, StepDefinition.ofText_file read', equal]

theorem Suite.isDead_of_sublist (features : featureFiles.Sublist featureFiles')
    (steps : stepFiles.Sublist stepFiles') (paths : DistinctPaths (featureFiles' ++ stepFiles'))
    {d : StepDefinition} (member : d ∈ (Suite.ofFiles featureFiles stepFiles).definitions)
    (dead : (d.catalog (Suite.ofFiles featureFiles' stepFiles').steps).isDead = true) :
    (d.catalog (Suite.ofFiles featureFiles stepFiles).steps).isDead = true :=
  StepDefinition.isDead_catalog_of_subset
    (Suite.steps_subset features steps paths) (Suite.definitions_calls member) dead

/-- The definitions of a suite that no step of it reaches. -/
def Suite.unreached (featureFiles stepFiles : List SourceFile) : List StepDefinition :=
  let suite := Suite.ofFiles featureFiles stepFiles
  DeadSteps.inOrder (suite.definitions.map (StepDefinition.catalog suite.steps))

theorem Suite.mem_unreached {d : StepDefinition} :
    d ∈ Suite.unreached featureFiles stepFiles ↔
      d ∈ (Suite.ofFiles featureFiles stepFiles).definitions ∧
        (d.catalog (Suite.ofFiles featureFiles stepFiles).steps).isDead = true := by
  have fresh : ∀ d ∈ (Suite.ofFiles featureFiles stepFiles).definitions, d.calls = [] :=
    fun d member => Suite.definitions_calls member
  rw [unreached, DeadSteps.mem_inOrder, ← List.mem_filter,
    StepDefinition.filter_isDead_catalog _ fresh, List.mem_filter]

theorem Suite.unreached_pairwise (paths : DistinctPaths (featureFiles ++ stepFiles)) :
    (Suite.unreached featureFiles stepFiles).Pairwise
      fun d e => d.card.location.order e.card.location = .lt :=
  DeadSteps.inOrder_pairwise ((Suite.definitions_distinctPlaces paths).catalog _)

/-- The definitions of the old files that are dead in the larger suite were so before, in the same
order. -/
theorem Suite.unreached_sublist (features : featureFiles.Sublist featureFiles')
    (steps : stepFiles.Sublist stepFiles') (paths : DistinctPaths (featureFiles' ++ stepFiles')) :
    ((Suite.unreached featureFiles' stepFiles').filter fun d =>
        decide (d.card.location.file ∈ stepFiles.map SourceFile.path)).Sublist
      (Suite.unreached featureFiles stepFiles) := by
  have larger := List.Pairwise.sublist
    (List.filter_sublist (p := fun d : StepDefinition =>
      decide (d.card.location.file ∈ stepFiles.map SourceFile.path)))
    (Suite.unreached_pairwise paths)
  have smaller := Suite.unreached_pairwise (paths.sublist (features.append steps))
  have antisymm : Std.Antisymm fun d e : StepDefinition =>
      d.card.location.order e.card.location = .lt :=
    ⟨fun d e less greater => absurd less (Std.OrientedCmp.not_lt_of_lt greater)⟩
  refine List.sublist_of_subperm_of_pairwise (List.subperm_of_subset ?_ ?_) larger smaller
  · refine larger.imp ?_
    rintro d _ less rfl
    simp [Std.ReflCmp.compare_self] at less
  · intro d member
    obtain ⟨unreached, old⟩ := List.mem_filter.mp member
    obtain ⟨inSuite, dead⟩ := Suite.mem_unreached.mp unreached
    obtain ⟨f, source, read⟩ := Suite.mem_definitions.mp inSuite
    obtain ⟨g, source', path⟩ := List.mem_map.mp (of_decide_eq_true old)
    rw [StepDefinition.ofText_file read] at path
    obtain rfl : g = f := paths.eq_of_components (List.mem_append_right _ (steps.subset source'))
      (List.mem_append_right _ source) (congrArg SourcePath.components path)
    have here : d ∈ (Suite.ofFiles featureFiles stepFiles).definitions :=
      Suite.mem_definitions.mpr ⟨g, source', read⟩
    exact Suite.mem_unreached.mpr ⟨here, Suite.isDead_of_sublist features steps paths here dead⟩

theorem SuiteReport.ofFiles_entries (criteria : Criteria) (thresholds : Thresholds)
    (paths : DistinctPaths (featureFiles ++ stepFiles)) :
    (SuiteReport.ofFiles criteria thresholds featureFiles stepFiles).dead.entries =
      (Suite.unreached featureFiles stepFiles).map fun d =>
        (d.card.location.file, DeadSteps.entry d) := by
  refine DeadSteps.entries_collect ?_
  intro d left e right same
  obtain ⟨d, member, rfl⟩ := List.mem_map.mp left
  obtain ⟨e, member', rfl⟩ := List.mem_map.mp right
  rw [StepDefinition.catalog_card, StepDefinition.catalog_card] at same ⊢
  exact Suite.definitions_spelled paths member member' same

theorem SuiteReport.mem_definitions {criteria : Criteria} {thresholds : Thresholds}
    {d : StepDefinition} :
    d ∈ (SuiteReport.ofFiles criteria thresholds featureFiles stepFiles).suite.definitions ↔
      ∃ source ∈ (Suite.ofFiles featureFiles stepFiles).definitions, criteria.evaluateDefinition
        (source.catalog (Suite.ofFiles featureFiles stepFiles).steps) = d := by
  simp only [SuiteReport.ofFiles, Suite.evaluate, Suite.catalog, List.map_map, List.mem_map,
    Function.comp_apply]

theorem Criteria.evaluateDefinition_location (c : Criteria) (d : StepDefinition) :
    (c.evaluateDefinition d).card.location = d.card.location :=
  c.apply_location .stepDefinition d.card _

theorem Criteria.evaluateDefinition_isDead (c : Criteria) (d : StepDefinition) :
    (c.evaluateDefinition d).isDead = d.isDead := rfl

/-- With more files, every definition that was alive is there and alive, and what is listed as dead
of the old files was listed before. -/
theorem audit_alive_of_sublist (config : Config) (features : featureFiles.Sublist featureFiles')
    (steps : stepFiles.Sublist stepFiles') (paths : DistinctPaths (featureFiles' ++ stepFiles'))
    {report report' : SuiteReport} (before : audit config featureFiles stepFiles = .ok report)
    (after : audit config featureFiles' stepFiles' = .ok report') :
    (∀ d ∈ report.suite.definitions, d.isDead = false →
      (∃ d' ∈ report'.suite.definitions, d'.card.location = d.card.location) ∧
      ∀ d' ∈ report'.suite.definitions, d'.card.location = d.card.location → d'.isDead = false) ∧
    (report'.dead.entries.filter fun e => decide (e.1 ∈ stepFiles.map SourceFile.path)).Sublist
      report.dead.entries := by
  obtain ⟨criteria, valid, rfl, -⟩ := audit_eq_ok.mp before
  obtain ⟨criteria', valid', rfl, -⟩ := audit_eq_ok.mp after
  refine ⟨fun d member alive => ?_, ?_⟩
  · obtain ⟨source, old, rfl⟩ := SuiteReport.mem_definitions.mp member
    have kept : source ∈ (Suite.ofFiles featureFiles' stepFiles').definitions := by
      obtain ⟨f, file, read⟩ := Suite.mem_definitions.mp old
      exact Suite.mem_definitions.mpr ⟨f, steps.subset file, read⟩
    simp only [Criteria.evaluateDefinition_location, StepDefinition.catalog_card]
    refine ⟨⟨_, SuiteReport.mem_definitions.mpr ⟨source, kept, rfl⟩, ?_⟩, fun d' member' place => ?_⟩
    · rw [Criteria.evaluateDefinition_location, StepDefinition.catalog_card]
    · -- At one place there is one definition, so `d'` is the old one again.
      obtain ⟨source', new, rfl⟩ := SuiteReport.mem_definitions.mp member'
      rw [Criteria.evaluateDefinition_isDead] at alive ⊢
      rw [Criteria.evaluateDefinition_location, StepDefinition.catalog_card] at place
      obtain rfl : source' = source := (Suite.definitions_distinctPlaces paths).eq_of_order new kept
        (by rw [place]; exact Std.ReflCmp.compare_self)
      refine Bool.eq_false_iff.mpr fun dead => ?_
      rw [Suite.isDead_of_sublist features steps paths old dead] at alive
      cases alive
  · rw [SuiteReport.ofFiles_entries _ _ paths,
      SuiteReport.ofFiles_entries _ _ (paths.sublist (features.append steps)), List.filter_map]
    exact (Suite.unreached_sublist features steps paths).map _

end Growth

/-- A definition that only a call with an interpolation may reach, and the definition that calls it. -/
def growingSteps : SourceFile where
  path := ⟨"cart.rb"⟩
  text := "Given 'I add \x7bint\x7d' do\nend\nWhen 'all' do\nstep \"I add #\x7bn\x7d\"\nend"

/-- A feature with a step that the first of these definitions matches. -/
def growingFeature : SourceFile where
  path := ⟨"cart.feature"⟩
  text := "Scenario:\nGiven I add 2"

/-- The definition is alive in both suites, by different calls. -/
theorem audit_alive_of_sublist_adding :
    ∃ report report', audit {} [] [growingSteps] = .ok report ∧
      audit {} [growingFeature] [growingSteps] = .ok report' ∧
      (report.suite.definitions.any fun d => !d.isDead) = true ∧
      (∀ d ∈ report.suite.definitions, d.isDead = false →
        ∀ d' ∈ report'.suite.definitions, d'.card.location = d.card.location → d'.isDead = false) ∧
      (report'.dead.entries.filter fun e => decide (e.1 ∈ [growingSteps].map SourceFile.path)).Sublist
        report.dead.entries := by
  have features : [].Sublist [growingFeature] := List.nil_sublist _
  have steps : [growingSteps].Sublist [growingSteps] := List.Sublist.refl _
  have paths : DistinctPaths ([growingFeature] ++ [growingSteps]) := by decide +kernel
  have alive : (audit {} [] [growingSteps]).toOption.any (fun report =>
      report.suite.definitions.any fun d => !d.isDead) = true := by decide +kernel
  obtain ⟨report, ok⟩ := exists_of_isOk (x := audit {} [] [growingSteps]) (by decide +kernel)
  obtain ⟨report', ok'⟩ := exists_of_isOk (x := audit {} [growingFeature] [growingSteps])
    (by decide +kernel)
  obtain ⟨kept, listed⟩ := audit_alive_of_sublist {} features steps paths ok ok'
  rw [ok] at alive
  exact ⟨report, report', ok, ok', alive, fun d member living => (kept d member living).2, listed⟩

end SuiteAudit
