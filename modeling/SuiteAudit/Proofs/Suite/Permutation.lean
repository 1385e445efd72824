import SuiteAudit.Proofs.Suite.Score
import SuiteAudit.Proofs.Universe.Calls

/-!
# The order of the files

A suite is judged alike in whatever order its files come: the steps that it calls are the same, each
node keeps its verdict, and the sums over the nodes do not change.
-/

namespace SuiteAudit

open Universe (DistinctPaths)

/-! ## The steps of a suite -/

theorem Suite.steps_of_perm {featureFiles featureFiles' stepFiles stepFiles' : List SourceFile}
    (features : featureFiles.Perm featureFiles') (steps : stepFiles.Perm stepFiles')
    (paths : DistinctPaths (featureFiles ++ stepFiles)) :
    (Suite.ofFiles featureFiles stepFiles).steps =
      (Suite.ofFiles featureFiles' stepFiles').steps := by
  have paths' : DistinctPaths (featureFiles' ++ stepFiles') :=
    ((features.append steps).map _).nodup_iff.mp paths
  have calls := Universe.callsOf_ofFiles featureFiles stepFiles
  have calls' := Universe.callsOf_ofFiles featureFiles' stepFiles'
  have same := (features.flatMap_right fun f =>
    (Feature.ofText f.path f.text).blocks.flatMap Universe.stepsOf).append
      (steps.flatMap_right fun f =>
        (StepDefinition.ofText f.path f.text).flatMap Universe.nestedOf)
  rw [← calls, ← calls'] at same
  -- Both maps are permutations of the calls, and the order of the keys leaves one choice.
  have left := Universe.build_perm (Universe.callsOf_ofFiles_distinct paths)
  have right := Universe.build_perm (Universe.callsOf_ofFiles_distinct paths')
  exact Universe.ext (Sorted.Ordered.eq_of_perm (Universe.ordered _) (Universe.ordered _)
    (left.trans (same.trans right.symm)))

/-! ## Dead definitions -/

/-- No two definitions stand at the same place. -/
def DistinctPlaces (definitions : List StepDefinition) : Prop :=
  definitions.Pairwise fun d e => d.card.location.order e.card.location ≠ .eq

theorem DistinctPlaces.eq_of_order {definitions : List StepDefinition}
    (distinct : DistinctPlaces definitions) {d e : StepDefinition} (left : d ∈ definitions)
    (right : e ∈ definitions) (same : d.card.location.order e.card.location = .eq) : d = e := by
  by_contra different
  have symm : Std.Symm fun d e : StepDefinition =>
      d.card.location.order e.card.location ≠ .eq :=
    ⟨fun _ _ apart equal => apart (Std.OrientedCmp.eq_comm.mp equal)⟩
  exact List.Pairwise.forall distinct left right different same

theorem pairwise_mergeSort_places (definitions : List StepDefinition) :
    (definitions.mergeSort fun d e => d.card.location.order e.card.location != .gt).Pairwise
      fun d e => (d.card.location.order e.card.location != .gt) = true := by
  have := transCmp_on Location.order fun d : StepDefinition => d.card.location
  exact List.pairwise_mergeSort bne_gt_trans bne_gt_total definitions

theorem DeadSteps.collect_of_perm {definitions others : List StepDefinition}
    (perm : definitions.Perm others) (distinct : DistinctPlaces definitions) :
    DeadSteps.collect definitions = DeadSteps.collect others := by
  have dead : (definitions.filter StepDefinition.isDead).mergeSort (fun d e =>
        d.card.location.order e.card.location != .gt) =
      (others.filter StepDefinition.isDead).mergeSort (fun d e =>
        d.card.location.order e.card.location != .gt) := by
    refine List.Perm.eq_of_pairwise ?_ (pairwise_mergeSort_places _) (pairwise_mergeSort_places _)
      ((List.mergeSort_perm _ _).trans ((perm.filter _).trans (List.mergeSort_perm _ _).symm))
    intro d e left right de ed
    have here := List.mem_of_mem_filter ((List.mergeSort_perm _ _).mem_iff.mp left)
    have there := List.mem_of_mem_filter ((List.mergeSort_perm _ _).mem_iff.mp right)
    refine distinct.eq_of_order here (perm.mem_iff.mpr there) ?_
    simp only [bne_iff_ne, ne_eq] at de ed
    cases order : d.card.location.order e.card.location with
    | gt => exact absurd order de
    | lt => exact absurd (Std.OrientedCmp.gt_of_lt order) ed
    | eq => rfl
  rw [collect, collect, dead]

theorem StepDefinition.ofText_distinctPlaces (file : SourcePath) (t : Text) :
    DistinctPlaces (StepDefinition.ofText file t) := by
  refine (StepDefinition.ofText_pairwise file t).imp ?_
  rintro d e ⟨below, -⟩ same
  exact absurd (Location.order_eq_iff.mp same).2 (Nat.ne_of_lt below)

theorem Suite.definitions_distinctPlaces {featureFiles stepFiles : List SourceFile}
    (paths : DistinctPaths (featureFiles ++ stepFiles)) :
    DistinctPlaces (Suite.ofFiles featureFiles stepFiles).definitions := by
  have apart := (List.pairwise_append.mp (List.pairwise_map.mp paths)).2.1
  refine List.pairwise_flatMap.mpr ⟨fun f _ => StepDefinition.ofText_distinctPlaces _ _, ?_⟩
  refine apart.imp fun different d left e right same => different ?_
  obtain ⟨line, here⟩ := StepDefinition.ofText_card left
  obtain ⟨line', there⟩ := StepDefinition.ofText_card right
  rw [here, there, Location.order_eq_iff] at same
  exact same.1

theorem DistinctPlaces.catalog {definitions : List StepDefinition}
    (distinct : DistinctPlaces definitions) (u : Universe) :
    DistinctPlaces (definitions.map (StepDefinition.catalog u)) := by
  refine List.pairwise_map.mpr (distinct.imp fun apart => ?_)
  rwa [StepDefinition.catalog_card, StepDefinition.catalog_card]

/-! ## The verdicts -/

/-- Two reports that give every node the same verdict and differ at most in the order of nodes and
phrases and in which of several nodes of one score stands for them. -/
structure SuiteReport.Agrees (r q : SuiteReport) : Prop where
  features : r.suite.features.Perm q.suite.features
  definitions : r.suite.definitions.Perm q.suite.definitions
  hooks : r.suite.hooks.Perm q.suite.hooks
  dead : r.dead = q.dead
  totalScore : r.summary.totalScore = q.summary.totalScore
  isGood : r.summary.isGood = q.summary.isGood
  categories : List.Forall₂ CategorySummary.Agrees r.summary.categories q.summary.categories
  improvements : ∀ phrase,
    r.summary.improvements.count phrase = q.summary.improvements.count phrase

theorem SuiteReport.ofFiles_of_perm (criteria : Criteria) (thresholds : Thresholds)
    {featureFiles featureFiles' stepFiles stepFiles' : List SourceFile}
    (features : featureFiles.Perm featureFiles') (steps : stepFiles.Perm stepFiles')
    (paths : DistinctPaths (featureFiles ++ stepFiles)) :
    (SuiteReport.ofFiles criteria thresholds featureFiles stepFiles).Agrees
      (SuiteReport.ofFiles criteria thresholds featureFiles' stepFiles') := by
  have called := Suite.steps_of_perm features steps paths
  have parsed : (Suite.ofFiles featureFiles stepFiles).definitions.Perm
      (Suite.ofFiles featureFiles' stepFiles').definitions := steps.flatMap_right _
  have cataloged := parsed.map (StepDefinition.catalog (Suite.ofFiles featureFiles stepFiles).steps)
  have featuresPerm := (features.map fun f => Feature.ofText f.path f.text).map
    criteria.evaluateFeature
  have definitionsPerm := cataloged.map criteria.evaluateDefinition
  have hooksPerm := (steps.flatMap_right fun f => Hook.ofText f.path f.text).map
    criteria.evaluateHook
  have categories := SuiteSummary.assess_categories_of_perm thresholds featuresPerm definitionsPerm
    hooksPerm
  have score := SuiteSummary.totalScore_of_agree categories
  rw [SuiteReport.ofFiles, SuiteReport.ofFiles, ← called]
  constructor
  case features => exact featuresPerm
  case definitions => exact definitionsPerm
  case hooks => exact hooksPerm
  case dead =>
    exact DeadSteps.collect_of_perm cataloged ((Suite.definitions_distinctPlaces paths).catalog _)
  case totalScore => exact score
  case isGood => exact congrArg (fun score => decide (score ≤ thresholds.project)) score
  case categories => exact categories
  case improvements =>
    intro phrase
    have counts := SuiteSummary.categories_map_eq categories
      fun _ _ agree => agree.improvements phrase
    simp only [Suite.summary, SuiteSummary.assess_improvements_count]
    exact congrArg List.sum counts

theorem audit_of_perm (config : Config)
    {featureFiles featureFiles' stepFiles stepFiles' : List SourceFile}
    (features : featureFiles.Perm featureFiles') (steps : stepFiles.Perm stepFiles')
    (paths : DistinctPaths (featureFiles ++ stepFiles)) :
    ((∃ report, audit config featureFiles stepFiles = .ok report) ↔
        ∃ report, audit config featureFiles' stepFiles' = .ok report) ∧
      ∀ report report', audit config featureFiles stepFiles = .ok report →
        audit config featureFiles' stepFiles' = .ok report' → report.Agrees report' := by
  have agree (criteria : Criteria) :=
    SuiteReport.ofFiles_of_perm criteria config.thresholds features steps paths
  constructor
  · simp only [audit_eq_ok]
    constructor
    · rintro ⟨report, criteria, valid, rfl, fits⟩
      refine ⟨_, criteria, valid, rfl, ?_⟩
      rwa [← (agree criteria).totalScore]
    · rintro ⟨report, criteria, valid, rfl, fits⟩
      refine ⟨_, criteria, valid, rfl, ?_⟩
      rwa [(agree criteria).totalScore]
  · intro report report' left right
    obtain ⟨criteria, valid, rfl, -⟩ := audit_eq_ok.mp left
    obtain ⟨criteria', valid', rfl, -⟩ := audit_eq_ok.mp right
    obtain rfl : criteria = criteria' := Except.ok.inj (valid.symm.trans valid')
    exact agree criteria

/-- Two features that call one step, and two definitions of which no step reaches the second. -/
def pairFeatures : List SourceFile :=
  [⟨⟨"a.feature"⟩, "Scenario:\n* x"⟩, ⟨⟨"b.feature"⟩, "Scenario:\n* x\n* x"⟩]

def pairSteps : List SourceFile := [⟨⟨"x.rb"⟩, "When /x/ do"⟩, ⟨⟨"y.rb"⟩, "When /y/ do"⟩]

theorem audit_of_perm_reverse :
    ∃ report report', audit {} pairFeatures pairSteps = .ok report ∧
      audit {} pairFeatures.reverse pairSteps.reverse = .ok report' ∧ report.Agrees report' := by
  have features : pairFeatures.Perm pairFeatures.reverse := (List.reverse_perm _).symm
  have steps : pairSteps.Perm pairSteps.reverse := (List.reverse_perm _).symm
  have paths : DistinctPaths (pairFeatures ++ pairSteps) := by decide +kernel
  have succeeds : (audit {} pairFeatures pairSteps).isOk = true := by decide +kernel
  obtain ⟨same, agree⟩ := audit_of_perm {} features steps paths
  obtain ⟨report, ok⟩ := exists_of_isOk succeeds
  obtain ⟨report', ok'⟩ := same.mp ⟨report, ok⟩
  exact ⟨report, report', ok, ok', agree report report' ok ok'⟩

end SuiteAudit
