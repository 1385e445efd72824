import Mathlib.Algebra.Order.BigOperators.Group.List
import Mathlib.Algebra.Order.Group.Nat
import SuiteAudit.Proofs.Feature.StepLines
import SuiteAudit.Proofs.Rule.Firing
import SuiteAudit.Proofs.StepFile.CallLines
import SuiteAudit.Proofs.Summary
import SuiteAudit.Proofs.Universe.Catalog

/-!
# The score of a suite

The cards of a suite that was just read are empty, so after judging it the sum of the scores is what
the violations of rules that judge the kind of their node cost.
-/

namespace SuiteAudit

/-- The report on a suite whose score may be too large. -/
def SuiteReport.ofFiles (criteria : Criteria) (thresholds : Thresholds)
    (featureFiles stepFiles : List SourceFile) : SuiteReport :=
  let suite := Suite.ofFiles featureFiles stepFiles
  let suite := suite.catalog suite.steps
  ⟨suite.evaluate criteria, .collect suite.definitions,
    (suite.evaluate criteria).summary thresholds⟩

theorem audit_of_error {config : Config} {e : ConfigError} (invalid : config.criteria? = .error e)
    (featureFiles stepFiles : List SourceFile) :
    audit config featureFiles stepFiles = .error (.config e) := by
  rw [audit, invalid]

theorem audit_of_ok {config : Config} {criteria : Criteria} (valid : config.criteria? = .ok criteria)
    (featureFiles stepFiles : List SourceFile) :
    audit config featureFiles stepFiles =
      let report := SuiteReport.ofFiles criteria config.thresholds featureFiles stepFiles
      if report.summary.totalScore ≤ maxScore then .ok report else .error .overflow := by
  simp only [audit, valid, SuiteSummary.fits, decide_eq_true_eq]
  rfl

theorem audit_eq_ok {config : Config} {featureFiles stepFiles : List SourceFile}
    {report : SuiteReport} :
    audit config featureFiles stepFiles = .ok report ↔
      ∃ criteria, config.criteria? = .ok criteria ∧
        SuiteReport.ofFiles criteria config.thresholds featureFiles stepFiles = report ∧
        report.summary.totalScore ≤ maxScore := by
  cases valid : config.criteria? with
  | error e => simp [audit_of_error valid]
  | ok criteria =>
      simp only [audit_of_ok valid, Except.ok.injEq, exists_eq_left']
      split
      case isTrue fits =>
        simp only [Except.ok.injEq]
        exact ⟨fun same => ⟨same, same ▸ fits⟩, And.left⟩
      case isFalse exceeds =>
        simp only [reduceCtorEq, false_iff, not_and]
        rintro rfl
        exact exceeds

/-! ## Costs -/

/-- What the violations cost on a node of the kind. -/
def Criteria.cost (c : Criteria) (kind : NodeKind) (vs : List Violation) : Nat :=
  ((vs.filter fun v => (c.table v.rule).appliesTo kind).map fun v => (c.table v.rule).score).sum

/-- What all violations in a suite cost: those of features, of backgrounds and scenarios, of
definitions and of hooks. -/
def Suite.cost (c : Criteria) (s : Suite) : Nat :=
  (s.features.map fun f => c.cost .feature (Check.feature c f)).sum +
    (s.features.map fun f =>
      (f.background.toList.map fun b => c.cost .background (Check.scenario c b 0)).sum +
        (f.scenarios.map fun b => c.cost .scenario (Check.scenario c b f.tags.length)).sum).sum +
    (s.definitions.map fun d => c.cost .stepDefinition (Check.stepDefinition c d)).sum +
    (s.hooks.map fun h => c.cost .hook (Check.hook h)).sum

theorem Criteria.apply_score (c : Criteria) (kind : NodeKind) (card : ScoreCard)
    (vs : List Violation) : (c.apply kind card vs).score = card.score + c.cost kind vs := by
  rw [apply_eq]
  rfl

theorem Suite.totalScore_eq (s : Suite) (thresholds : Thresholds) :
    (s.summary thresholds).totalScore = (s.cards.map fun c => c.2.score).sum := by
  simp only [cards, List.map_append, List.sum_append, List.map_map, Function.comp_def,
    SuiteSummary.totalScore_eq_sum, SuiteSummary.categories, summary, SuiteSummary.assess,
    CategorySummary.assess_totalScore, List.map_cons, List.map_nil, List.sum_cons, List.sum_nil,
    List.flatMap_def, List.map_flatten, List.sum_flatten, List.sum_map_add]
  omega

theorem Suite.score_le_totalScore (s : Suite) (thresholds : Thresholds) :
    (∀ f ∈ s.features, f.card.score ≤ (s.summary thresholds).totalScore ∧
      ∀ b ∈ f.blocks, b.card.score ≤ (s.summary thresholds).totalScore) ∧
      (∀ d ∈ s.definitions, d.card.score ≤ (s.summary thresholds).totalScore) ∧
      ∀ h ∈ s.hooks, h.card.score ≤ (s.summary thresholds).totalScore := by
  have within (kind : NodeKind) (card : ScoreCard) (mem : (kind, card) ∈ s.cards) :
      card.score ≤ (s.summary thresholds).totalScore := by
    rw [s.totalScore_eq]
    exact List.le_sum_of_mem (List.mem_map_of_mem mem)
  refine ⟨fun f mem => ⟨?_, fun b block => ?_⟩, fun d mem => ?_, fun h mem => ?_⟩
  · refine within .feature _ (List.mem_append_left _ (List.mem_append_left _ ?_))
    exact List.mem_flatMap.mpr ⟨f, mem, List.mem_cons_self⟩
  · refine within b.nodeKind _ (List.mem_append_left _ (List.mem_append_left _ ?_))
    exact List.mem_flatMap.mpr ⟨f, mem, List.mem_cons_of_mem _ (List.mem_map_of_mem block)⟩
  · refine within .stepDefinition _ (List.mem_append_left _ (List.mem_append_right _ ?_))
    exact List.mem_map.mpr ⟨d, mem, rfl⟩
  · refine within .hook _ (List.mem_append_right _ ?_)
    exact List.mem_map.mpr ⟨h, mem, rfl⟩

/-! ## Fresh suites -/

namespace Feature

theorem addBlock_card (f : Feature) (s : Scenario) : (f.addBlock s).card = f.card := by
  unfold addBlock
  split
  · split <;> rfl
  · rfl

theorem foldl_addBlock_card (f : Feature) (ss : List Scenario) :
    (ss.foldl addBlock f).card = f.card := by
  induction ss generalizing f with
  | nil => rfl
  | cons s ss ih => rw [List.foldl_cons, ih, addBlock_card]

theorem readHeader_card (file : SourcePath) (lines : List NumberedLine) :
    ∃ line, (readHeader file lines).1.card = { location := ⟨file, line⟩ } := by
  simp only [readHeader]
  split
  · exact ⟨1, rfl⟩
  · exact ⟨_, rfl⟩

theorem ofText_card (file : SourcePath) (t : Text) :
    ∃ line, (ofText file t).card = { location := ⟨file, line⟩ } := by
  rw [ofText_eq, foldl_addBlock_card]
  exact readHeader_card file _

/-- The background of a feature is one, and its scenarios are not. -/
def KindsMatch (f : Feature) : Prop :=
  (∀ b ∈ f.background, b.nodeKind = .background) ∧ ∀ s ∈ f.scenarios, s.nodeKind = .scenario

theorem addBlock_kindsMatch {f : Feature} (kinds : f.KindsMatch) (s : Scenario) :
    (f.addBlock s).KindsMatch := by
  unfold addBlock
  split
  case isTrue background =>
    split
    · refine ⟨fun b mem => ?_, kinds.2⟩
      cases mem
      exact if_pos background
    · exact kinds
  case isFalse other =>
    refine ⟨kinds.1, fun b mem => ?_⟩
    rcases List.mem_append.mp mem with old | new
    · exact kinds.2 b old
    · rw [List.mem_singleton.mp new]
      exact if_neg other

theorem kindsMatch_of_bare {f : Feature} (background : f.background = none)
    (scenarios : f.scenarios = []) : f.KindsMatch := by
  simp [KindsMatch, background, scenarios]

theorem foldl_addBlock_kindsMatch {f : Feature} (kinds : f.KindsMatch) (ss : List Scenario) :
    (ss.foldl addBlock f).KindsMatch := by
  induction ss generalizing f with
  | nil => exact kinds
  | cons s ss ih => exact ih (addBlock_kindsMatch kinds s)

theorem ofText_kindsMatch (file : SourcePath) (t : Text) : (ofText file t).KindsMatch := by
  rw [ofText_eq]
  refine foldl_addBlock_kindsMatch ?_ _
  simp only [readHeader]
  split
  · exact kindsMatch_of_bare rfl rfl
  · exact kindsMatch_of_bare rfl rfl

end Feature

theorem Hook.ofText_card {file : SourcePath} {t : Text} {h : Hook} (member : h ∈ ofText file t) :
    ∃ line, h.card = { location := ⟨file, line⟩ } := by
  obtain ⟨b, -, read⟩ := List.mem_filterMap.mp member
  split at read
  · cases read
  · cases read
    exact ⟨b.line, rfl⟩

namespace Suite

/-- No node of the suite has been judged. -/
structure Fresh (s : Suite) : Prop where
  features : ∀ f ∈ s.features, f.card.score = 0 ∧ f.KindsMatch ∧ ∀ b ∈ f.blocks, b.card.score = 0
  definitions : ∀ d ∈ s.definitions, d.card.score = 0
  hooks : ∀ h ∈ s.hooks, h.card.score = 0

theorem ofFiles_fresh (featureFiles stepFiles : List SourceFile) :
    (ofFiles featureFiles stepFiles).Fresh := by
  constructor
  case features =>
    intro f mem
    obtain ⟨file, -, rfl⟩ := List.mem_map.mp mem
    obtain ⟨line, card⟩ := Feature.ofText_card file.path file.text
    refine ⟨by rw [card], Feature.ofText_kindsMatch _ _, fun b block => ?_⟩
    obtain ⟨title, kept, card, -⟩ := Feature.ofText_mem_blocks block
    rw [card]
  case definitions =>
    intro d mem
    obtain ⟨file, -, read⟩ := List.mem_flatMap.mp mem
    obtain ⟨line, card⟩ := StepDefinition.ofText_card read
    rw [card]
  case hooks =>
    intro h mem
    obtain ⟨file, -, read⟩ := List.mem_flatMap.mp mem
    obtain ⟨line, card⟩ := Hook.ofText_card read
    rw [card]

theorem Fresh.catalog {s : Suite} (fresh : s.Fresh) (u : Universe) : (s.catalog u).Fresh := by
  refine ⟨fresh.features, fun d mem => ?_, fresh.hooks⟩
  obtain ⟨e, source, rfl⟩ := List.mem_map.mp mem
  rw [StepDefinition.catalog_fields]
  exact fresh.definitions e source

theorem evaluateScenario_score (c : Criteria) (inherited : Nat) {b : Scenario}
    (empty : b.card.score = 0) : (c.evaluateScenario inherited b).card.score =
      c.cost b.nodeKind (Check.scenario c b inherited) := by
  simp only [Criteria.evaluateScenario, Criteria.apply_score, empty, Nat.zero_add]

theorem evaluateFeature_blocks_score (c : Criteria) {f : Feature} (kinds : f.KindsMatch)
    (empty : ∀ b ∈ f.blocks, b.card.score = 0) :
    ((c.evaluateFeature f).blocks.map fun b => b.card.score).sum =
      (f.background.toList.map fun b => c.cost .background (Check.scenario c b 0)).sum +
        (f.scenarios.map fun b => c.cost .scenario (Check.scenario c b f.tags.length)).sum := by
  have background : (f.background.map (c.evaluateScenario 0)).toList.map (fun b => b.card.score) =
      f.background.toList.map fun b => c.cost .background (Check.scenario c b 0) := by
    cases here : f.background with
    | none => rfl
    | some b =>
        have score := evaluateScenario_score c 0 (empty b (by simp [Feature.blocks, here]))
        rw [kinds.1 b here] at score
        simp only [Option.map_some, Option.toList_some, List.map_cons, List.map_nil, score]
  have scenarios : (f.scenarios.map (c.evaluateScenario f.tags.length)).map (fun b => b.card.score) =
      f.scenarios.map fun b => c.cost .scenario (Check.scenario c b f.tags.length) := by
    rw [List.map_map]
    refine List.map_congr_left fun b mem => ?_
    have score := evaluateScenario_score c f.tags.length
      (empty b (List.mem_append_right _ mem))
    rwa [kinds.2 b mem] at score
  simp only [Feature.blocks, Criteria.evaluateFeature, List.map_append, List.sum_append,
    background, scenarios]

/-- Judging a suite that was just read adds up what its violations cost. -/
theorem Fresh.totalScore {s : Suite} (fresh : s.Fresh) (c : Criteria) (thresholds : Thresholds) :
    ((s.evaluate c).summary thresholds).totalScore = s.cost c := by
  have features : s.features.map (fun f => (c.evaluateFeature f).card.score) =
      s.features.map fun f => c.cost .feature (Check.feature c f) := by
    refine List.map_congr_left fun f mem => ?_
    simp only [Criteria.evaluateFeature, Criteria.apply_score, (fresh.features f mem).1,
      Nat.zero_add]
  have blocks : s.features.map (fun f =>
        ((c.evaluateFeature f).blocks.map fun b => b.card.score).sum) =
      s.features.map fun f =>
        (f.background.toList.map fun b => c.cost .background (Check.scenario c b 0)).sum +
          (f.scenarios.map fun b => c.cost .scenario (Check.scenario c b f.tags.length)).sum := by
    refine List.map_congr_left fun f mem => ?_
    obtain ⟨-, kinds, empty⟩ := fresh.features f mem
    exact evaluateFeature_blocks_score c kinds empty
  have definitions : s.definitions.map (fun d => (c.evaluateDefinition d).card.score) =
      s.definitions.map fun d => c.cost .stepDefinition (Check.stepDefinition c d) := by
    refine List.map_congr_left fun d mem => ?_
    simp only [Criteria.evaluateDefinition, Criteria.apply_score, fresh.definitions d mem,
      Nat.zero_add]
  have hooks : s.hooks.map (fun h => (c.evaluateHook h).card.score) =
      s.hooks.map fun h => c.cost .hook (Check.hook h) := by
    refine List.map_congr_left fun h mem => ?_
    simp only [Criteria.evaluateHook, Criteria.apply_score, fresh.hooks h mem, Nat.zero_add]
  simp only [SuiteSummary.totalScore_eq_sum, SuiteSummary.categories, summary, SuiteSummary.assess,
    evaluate, CategorySummary.assess_totalScore, List.map_map, List.map_cons, List.map_nil,
    List.sum_cons, List.sum_nil, Function.comp_def, cost, features, definitions, hooks,
    List.flatMap_def, List.map_flatten, List.sum_flatten]
  rw [← blocks]
  omega

end Suite

end SuiteAudit
