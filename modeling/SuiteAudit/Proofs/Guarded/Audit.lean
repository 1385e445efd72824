import SuiteAudit.Proofs.Guarded.Feature
import SuiteAudit.Proofs.Guarded.StepFile
import SuiteAudit.Proofs.Suite.Score

/-!
# The guarded audit

The audit with every operation guarded that has no result for some arguments: reading, cataloging,
judging and adding up. Reading and cataloging have no faults, and a sum of scores is too large
somewhere just if the score of the whole suite is.
-/

namespace SuiteAudit

namespace Guarded

variable {α β : Type}

/-! ## Cataloging -/

def reachPattern? (step : Text) : Except Fault (Option Pattern) := do
  let text := Line.stepText step
  let found ← pieces (.error .underflow) (text.length + 1) text
  if found.any Piece.isInterpolation then
    let patterns := found.map fun
      | .plain t => Pattern.mk (Regex.escape t) (Regex.literal t)
      | .interpolation _ => ⟨".*", Regex.anyText⟩
    return some ⟨'^' :: patterns.flatMap Pattern.text ++ ['$'],
      Regex.whole (Regex.seqs (patterns.map Pattern.regex))⟩
  else return none

def interpolated (u : Universe) : Except Fault (List ((StepLocation × Text) × Pattern)) := do
  let found ← u.calls.mapM fun e => do
    let pattern? ← reachPattern? e.2
    return pattern?.map fun p => (e, p)
  return found.filterMap id

/-- The definition with its calls, where `found` are the steps with interpolations. -/
def catalog (u : Universe) (found : List ((StepLocation × Text) × Pattern)) (d : StepDefinition) :
    StepDefinition :=
  let d := d.addCalls (u.calls.filter fun e => d.isMatch e.2)
  if d.isDead then
    let source := unanchored d.source
    d.addCalls ((found.filter fun e => e.2.isMatch source).map Prod.fst)
  else d

theorem reachPattern?_eq (step : Text) : reachPattern? step = .ok (SuiteAudit.reachPattern? step) := by
  simp only [reachPattern?, pieces_eq _ (Nat.lt_succ_self _), ok_bind, SuiteAudit.reachPattern?]
  split <;> rfl

theorem interpolated_eq (u : Universe) : interpolated u = .ok u.interpolated := by
  have found : (u.calls.mapM fun e => do
      let pattern? ← reachPattern? e.2
      return pattern?.map fun p => (e, p)) =
      .ok (u.calls.map fun e => (SuiteAudit.reachPattern? e.2).map fun p => (e, p)) := by
    refine mapM_ok fun e _ => ?_
    rw [reachPattern?_eq]
    rfl
  rw [interpolated, found, ok_bind, List.filterMap_map]
  rfl

theorem catalog_eq (u : Universe) : catalog u u.interpolated = StepDefinition.catalog u := rfl

/-! ## Checks -/

def ownTags (s : Scenario) (inherited : Nat) : Except Fault (List Text) :=
  slice s.tags 0 (s.tags.length - inherited)

def sharedTags (f : Feature) : Except Fault (List Text) :=
  if f.scenarios.length < 2 then .ok []
  else do
    let first ← get f.scenarios 0
    let others ← slice f.scenarios 1 f.scenarios.length
    let own ← ownTags first f.tags.length
    let owns ← others.mapM fun s => ownTags s f.tags.length
    return (own.filter fun t =>
      !Check.isCommentedTag t && owns.all fun own => own.contains t).eraseDups

theorem ownTags_eq (s : Scenario) (inherited : Nat) :
    ownTags s inherited = .ok (Check.ownTags s inherited) :=
  slice_take (Nat.sub_le _ _)

theorem sharedTags_eq (f : Feature) : sharedTags f = .ok (Check.sharedTags f) := by
  unfold sharedTags Check.sharedTags
  cases f.scenarios with
  | nil => rfl
  | cons first scenarios =>
      cases scenarios with
      | nil => rfl
      | cons second rest =>
          have first? : get (first :: second :: rest) 0 = .ok first := rfl
          have others : slice (first :: second :: rest) 1 (first :: second :: rest).length =
              .ok (second :: rest) := slice_drop (by simp)
          have owns : (second :: rest).mapM (fun s => ownTags s f.tags.length) =
              .ok ((second :: rest).map fun s => Check.ownTags s f.tags.length) :=
            mapM_ok fun s _ => ownTags_eq s _
          rw [if_neg (by simp), first?, ok_bind, others, ok_bind, ownTags_eq, ok_bind, owns, ok_bind]
          simp only [List.all_map]
          rfl

/-! ## Scores -/

def store (c : Criteria) (kind : NodeKind) (card : ScoreCard) (v : Violation) :
    Except Fault ScoreCard :=
  let rule := c.table v.rule
  if rule.appliesTo kind then do
    let score ← add card.score rule.score
    return { card with
      score, violations := card.violations.increment (rule.render kind v.detail) }
  else return card

def apply (c : Criteria) (kind : NodeKind) (card : ScoreCard) (vs : List Violation) :
    Except Fault ScoreCard :=
  vs.foldlM (store c kind) card

def evaluateScenario (c : Criteria) (inherited : Nat) (s : Scenario) : Except Fault Scenario := do
  let own ← ownTags s inherited
  let card ← apply c s.nodeKind s.card (Check.scenarioOwning c s own)
  return { s with card }

def evaluateFeature (c : Criteria) (f : Feature) : Except Fault Feature := do
  let shared ← sharedTags f
  let card ← apply c .feature f.card (Check.featureSharing c f shared)
  let background ← f.background.mapM (evaluateScenario c 0)
  let scenarios ← f.scenarios.mapM (evaluateScenario c f.tags.length)
  return { f with card, background, scenarios }

def evaluateDefinition (c : Criteria) (d : StepDefinition) : Except Fault StepDefinition := do
  let card ← apply c .stepDefinition d.card (Check.stepDefinition c d)
  return { d with card }

def evaluateHook (c : Criteria) (h : Hook) : Except Fault Hook := do
  let card ← apply c .hook h.card (Check.hook h)
  return { h with card }

def addCard (s : CategorySummary) (c : ScoreCard) : Except Fault CategorySummary := do
  let totalScore ← add s.totalScore c.score
  return { s.add c with totalScore }

def category (threshold : Nat) (cards : List ScoreCard) : Except Fault CategorySummary :=
  cards.foldlM addCard { threshold }

/-- The summary of a suite. The scores of the categories are added from the first to the last. -/
def summary (s : Suite) (thresholds : Thresholds) : Except Fault SuiteSummary := do
  let features ← category (thresholds.forKind .feature) (s.features.map Feature.card)
  let scenarios ← category (thresholds.forKind .scenario)
    (s.features.flatMap fun f => f.blocks.map Scenario.card)
  let definitions ← category (thresholds.forKind .stepDefinition)
    (s.definitions.map StepDefinition.card)
  let hooks ← category (thresholds.forKind .hook) (s.hooks.map Hook.card)
  let score ← add features.totalScore scenarios.totalScore
  let score ← add score definitions.totalScore
  let _ ← add score hooks.totalScore
  return { features, scenarios, definitions, hooks, thresholds }

def judge (c : Criteria) (thresholds : Thresholds) (s : Suite) :
    Except Fault (Suite × SuiteSummary) := do
  let features ← s.features.mapM (evaluateFeature c)
  let definitions ← s.definitions.mapM (evaluateDefinition c)
  let hooks ← s.hooks.mapM (evaluateHook c)
  let judged : Suite := { features, definitions, hooks }
  let summary ← summary judged thresholds
  return (judged, summary)

def suite (featureFiles stepFiles : List SourceFile) : Except Fault Suite := do
  let features ← featureFiles.mapM fun f => feature f.path f.text
  let definitions ← stepFiles.mapM fun f => definitions f.path f.text
  let hooks ← stepFiles.mapM fun f => hooks f.path f.text
  return { features, definitions := definitions.flatten, hooks := hooks.flatten }

def report (c : Criteria) (thresholds : Thresholds) (featureFiles stepFiles : List SourceFile) :
    Except Fault SuiteReport := do
  let suite ← suite featureFiles stepFiles
  let found ← interpolated suite.steps
  let cataloged := { suite with definitions := suite.definitions.map (catalog suite.steps found) }
  let (judged, summary) ← judge c thresholds cataloged
  return ⟨judged, DeadSteps.collect cataloged.definitions, summary⟩

def audit (config : Config) (featureFiles stepFiles : List SourceFile) :
    Except (ConfigError ⊕ Fault) SuiteReport :=
  match config.criteria? with
  | .error e => .error (.inl e)
  | .ok criteria => (report criteria config.thresholds featureFiles stepFiles).mapError .inr

/-! ## Sums that are too large -/

/-- The computation gives `a` or overflows, and it gives `a` if the score `total` is not too large. -/
structure Bounded (total : Nat) (x : Except Fault α) (a : α) : Prop where
  ok : total ≤ maxScore → x = .ok a
  fault : x = .ok a ∨ x = .error .overflow

/-- The value, if the score `total` is not too large. -/
def scored (total : Nat) (a : α) : Except Fault α :=
  if total ≤ maxScore then .ok a else .error .overflow

theorem scored_bind (total : Nat) (a : α) (f : α → β) :
    (scored total a >>= fun a => pure (f a)) = scored total (f a) := by
  unfold scored
  split <;> rfl

theorem Bounded.of_ok {total : Nat} {x : Except Fault α} {a : α} (ok : x = .ok a) :
    Bounded total x a := ⟨fun _ => ok, .inl ok⟩

theorem Bounded.bind {total : Nat} {x : Except Fault α} {f : α → Except Fault β} {a : α} {b : β}
    (first : Bounded total x a) (next : Bounded total (f a) b) : Bounded total (x >>= f) b := by
  constructor
  case ok =>
    intro fits
    rw [first.ok fits, ok_bind, next.ok fits]
  case fault =>
    rcases first.fault with rfl | rfl
    · exact next.fault
    · exact .inr rfl

theorem Bounded.bind_scored {total : Nat} {x : Except Fault α} {f : α → Except Fault β} {a : α}
    {b : β} (first : Bounded total x a) (next : f a = scored total b) :
    (x >>= f) = scored total b := by
  by_cases fits : total ≤ maxScore
  · rw [first.ok fits, ok_bind, next]
  · -- Both may overflow, and an overflow is the same wherever it happens.
    rcases first.fault with rfl | rfl
    · exact next
    · exact (if_neg fits).symm

theorem Bounded.mapM {total : Nat} {f : α → Except Fault β} {g : α → β} {xs : List α}
    (each : ∀ x ∈ xs, Bounded total (f x) (g x)) : Bounded total (xs.mapM f) (xs.map g) := by
  induction xs with
  | nil => exact .of_ok rfl
  | cons x xs ih =>
      rw [List.mapM_cons]
      exact (each x List.mem_cons_self).bind
        ((ih fun y mem => each y (List.mem_cons_of_mem x mem)).bind (.of_ok rfl))

theorem bounded_add {total m n : Nat} (within : m + n ≤ total) : Bounded total (add m n) (m + n) := by
  by_cases fits : m + n ≤ maxScore
  · exact .of_ok (if_pos fits)
  · exact ⟨fun bound => absurd (within.trans bound) fits, .inr (if_neg fits)⟩

variable {total : Nat}

theorem bounded_store (c : Criteria) (kind : NodeKind) (card : ScoreCard) (v : Violation)
    (within : (c.store kind card v).score ≤ total) :
    Bounded total (store c kind card v) (c.store kind card v) := by
  simp only [store, Criteria.store] at within ⊢
  split at within
  case isTrue applies =>
    rw [if_pos applies, if_pos applies]
    exact (bounded_add within).bind (.of_ok rfl)
  case isFalse applies =>
    rw [if_neg applies, if_neg applies]
    exact .of_ok rfl

theorem bounded_apply (c : Criteria) (kind : NodeKind) (card : ScoreCard) (vs : List Violation)
    (within : (c.apply kind card vs).score ≤ total) :
    Bounded total (apply c kind card vs) (c.apply kind card vs) := by
  induction vs generalizing card with
  | nil => exact .of_ok rfl
  | cons v vs ih =>
      have rest : (c.apply kind (c.store kind card v) vs).score ≤ total := within
      have here : (c.store kind card v).score ≤ total := by
        rw [Criteria.apply_score] at rest
        omega
      rw [apply, List.foldlM_cons]
      exact (bounded_store c kind card v here).bind (ih _ rest)

theorem bounded_evaluateScenario (c : Criteria) (inherited : Nat) (s : Scenario)
    (within : (c.evaluateScenario inherited s).card.score ≤ total) :
    Bounded total (evaluateScenario c inherited s) (c.evaluateScenario inherited s) := by
  rw [evaluateScenario, ownTags_eq, ok_bind]
  exact (bounded_apply c s.nodeKind s.card _ within).bind (.of_ok rfl)

theorem bounded_evaluateFeature (c : Criteria) (f : Feature)
    (within : (c.evaluateFeature f).card.score ≤ total)
    (blocks : ∀ b ∈ (c.evaluateFeature f).blocks, b.card.score ≤ total) :
    Bounded total (evaluateFeature c f) (c.evaluateFeature f) := by
  have background : Bounded total (f.background.mapM (evaluateScenario c 0))
      (f.background.map (c.evaluateScenario 0)) := by
    cases here : f.background with
    | none => exact .of_ok rfl
    | some b =>
        have bound : (c.evaluateScenario 0 b).card.score ≤ total :=
          blocks _ (by simp [Feature.blocks, Criteria.evaluateFeature, here])
        exact (bounded_evaluateScenario c 0 b bound).bind (.of_ok rfl)
  have scenarios : Bounded total (f.scenarios.mapM (evaluateScenario c f.tags.length))
      (f.scenarios.map (c.evaluateScenario f.tags.length)) := by
    refine .mapM fun b mem => bounded_evaluateScenario c _ b (blocks _ ?_)
    exact List.mem_append_right _ (List.mem_map_of_mem mem)
  rw [evaluateFeature, sharedTags_eq, ok_bind]
  exact (bounded_apply c .feature f.card _ within).bind
    (background.bind (scenarios.bind (.of_ok rfl)))

theorem bounded_category (threshold : Nat) (cards : List ScoreCard)
    (within : (CategorySummary.assess threshold cards).totalScore ≤ total) :
    Bounded total (category threshold cards) (CategorySummary.assess threshold cards) := by
  unfold category CategorySummary.assess at *
  generalize ({ threshold } : CategorySummary) = s at within ⊢
  induction cards generalizing s with
  | nil => exact .of_ok rfl
  | cons c cards ih =>
      have here : s.totalScore + c.score ≤ total := by
        rw [CategorySummary.foldl_add_totalScore, List.map_cons, List.sum_cons] at within
        omega
      have first : Bounded total (addCard s c) (s.add c) := (bounded_add here).bind (.of_ok rfl)
      rw [List.foldlM_cons, List.foldl_cons]
      exact first.bind (ih (s.add c) within)

theorem summary_eq (s : Suite) (thresholds : Thresholds) :
    summary s thresholds = scored (s.summary thresholds).totalScore (s.summary thresholds) := by
  have split : (s.summary thresholds).totalScore =
      (s.summary thresholds).features.totalScore + (s.summary thresholds).scenarios.totalScore +
        (s.summary thresholds).definitions.totalScore +
        (s.summary thresholds).hooks.totalScore := by
    simp only [SuiteSummary.totalScore_eq_sum, SuiteSummary.categories, List.map_cons, List.map_nil,
      List.sum_cons, List.sum_nil]
    omega
  -- The last sum is the score of the suite, and the sums before it are no larger.
  rw [summary]
  refine (bounded_category _ _ ?_).bind_scored ((bounded_category _ _ ?_).bind_scored
    ((bounded_category _ _ ?_).bind_scored ((bounded_category _ _ ?_).bind_scored
      ((bounded_add ?_).bind_scored ((bounded_add ?_).bind_scored ?_)))))
  · show (s.summary thresholds).features.totalScore ≤ _
    omega
  · show (s.summary thresholds).scenarios.totalScore ≤ _
    omega
  · show (s.summary thresholds).definitions.totalScore ≤ _
    omega
  · show (s.summary thresholds).hooks.totalScore ≤ _
    omega
  · show (s.summary thresholds).features.totalScore + (s.summary thresholds).scenarios.totalScore ≤ _
    omega
  · show (s.summary thresholds).features.totalScore + (s.summary thresholds).scenarios.totalScore +
      (s.summary thresholds).definitions.totalScore ≤ _
    omega
  · show (add ((s.summary thresholds).features.totalScore +
        (s.summary thresholds).scenarios.totalScore +
        (s.summary thresholds).definitions.totalScore) (s.summary thresholds).hooks.totalScore >>=
      fun _ => .ok (s.summary thresholds)) = _
    rw [add, ← split, scored]
    split <;> rfl

theorem judge_eq (c : Criteria) (thresholds : Thresholds) (s : Suite) :
    judge c thresholds s = scored ((s.evaluate c).summary thresholds).totalScore
      (s.evaluate c, (s.evaluate c).summary thresholds) := by
  obtain ⟨features, definitions, hooks⟩ := (s.evaluate c).score_le_totalScore thresholds
  have judgedFeatures : Bounded ((s.evaluate c).summary thresholds).totalScore
      (s.features.mapM (evaluateFeature c)) (s.evaluate c).features := by
    refine .mapM fun f mem => ?_
    obtain ⟨card, blocks⟩ := features _ (List.mem_map_of_mem mem)
    exact bounded_evaluateFeature c f card blocks
  have judgedDefinitions : Bounded ((s.evaluate c).summary thresholds).totalScore
      (s.definitions.mapM (evaluateDefinition c)) (s.evaluate c).definitions := by
    refine .mapM fun d mem => ?_
    exact (bounded_apply c _ _ _ (definitions _ (List.mem_map_of_mem mem))).bind (.of_ok rfl)
  have judgedHooks : Bounded ((s.evaluate c).summary thresholds).totalScore
      (s.hooks.mapM (evaluateHook c)) (s.evaluate c).hooks := by
    refine .mapM fun h mem => ?_
    exact (bounded_apply c _ _ _ (hooks _ (List.mem_map_of_mem mem))).bind (.of_ok rfl)
  refine judgedFeatures.bind_scored (judgedDefinitions.bind_scored (judgedHooks.bind_scored ?_))
  show (summary (s.evaluate c) thresholds >>= fun summary => pure (s.evaluate c, summary)) = _
  rw [summary_eq, scored_bind]

theorem suite_eq (featureFiles stepFiles : List SourceFile) :
    suite featureFiles stepFiles = .ok (Suite.ofFiles featureFiles stepFiles) := by
  have features := mapM_ok fun f (_ : f ∈ featureFiles) => feature_eq f.path f.text
  have definitions := mapM_ok fun f (_ : f ∈ stepFiles) => definitions_eq f.path f.text
  have hooks := mapM_ok fun f (_ : f ∈ stepFiles) => hooks_eq f.path f.text
  simp only [suite, features, definitions, hooks, ok_bind, ← List.flatMap_def]
  rfl

theorem report_eq (c : Criteria) (thresholds : Thresholds)
    (featureFiles stepFiles : List SourceFile) :
    report c thresholds featureFiles stepFiles =
      scored (SuiteReport.ofFiles c thresholds featureFiles stepFiles).summary.totalScore
        (SuiteReport.ofFiles c thresholds featureFiles stepFiles) := by
  rw [report, suite_eq, ok_bind, interpolated_eq, ok_bind, catalog_eq]
  simp only [judge_eq]
  exact scored_bind _ _ _

/-- Why the guarded audit has no report where the audit has none. -/
def failure : AuditError → ConfigError ⊕ Fault
  | .config e => .inl e
  | .overflow => .inr .overflow

theorem audit_eq (config : Config) (featureFiles stepFiles : List SourceFile) :
    audit config featureFiles stepFiles =
      (SuiteAudit.audit config featureFiles stepFiles).mapError failure := by
  cases valid : config.criteria? with
  | error e =>
      rw [audit, valid, audit_of_error valid]
      rfl
  | ok criteria =>
      simp only [audit, valid, report_eq, audit_of_ok valid, scored]
      split <;> rfl

end Guarded

/-- An audit fails over its settings just if they make no criteria, whatever the files hold. With
criteria it gives a report just if what all violations cost fits a score. And this is the only way to
fail: with every operation guarded that has no result for some arguments, the audit is the same. -/
theorem audit_completes_iff (config : Config) (featureFiles stepFiles : List SourceFile) :
    let suite := Suite.ofFiles featureFiles stepFiles
    (∀ e, audit config featureFiles stepFiles = .error (.config e) ↔
        config.criteria? = .error e) ∧
      (∀ criteria, config.criteria? = .ok criteria →
        ((∃ report, audit config featureFiles stepFiles = .ok report) ↔
            (suite.catalog suite.steps).cost criteria ≤ 2 ^ 32 - 1) ∧
          (audit config featureFiles stepFiles = .error .overflow ↔
            2 ^ 32 - 1 < (suite.catalog suite.steps).cost criteria)) ∧
      Guarded.audit config featureFiles stepFiles =
        (audit config featureFiles stepFiles).mapError Guarded.failure := by
  intro suite
  refine ⟨fun e => ?_, fun criteria valid => ?_, Guarded.audit_eq config featureFiles stepFiles⟩
  · cases valid : config.criteria? with
    | error e' => simp [audit_of_error valid]
    | ok criteria =>
        rw [audit_of_ok valid]
        simp only [reduceCtorEq, iff_false]
        split <;> simp
  · have score : (SuiteReport.ofFiles criteria config.thresholds featureFiles
        stepFiles).summary.totalScore = (suite.catalog suite.steps).cost criteria :=
      ((Suite.ofFiles_fresh featureFiles stepFiles).catalog _).totalScore criteria config.thresholds
    simp only [audit_of_ok valid, score, maxScore]
    split
    case isTrue fits => simpa using fits
    case isFalse exceeds => simpa using exceeds

/-- A scenario without a name in a feature without one. -/
def namelessFeature : SourceFile := ⟨⟨"a.feature"⟩, "Scenario:\n* x"⟩

/-- Settings under which a missing name costs as much as a score can hold. -/
def strictConfig : Config := { rules := [(.noDescription, { score := some maxScore })] }

theorem Config.criteria?_of_sound {config : Config} (sound : config.table.error? = none) :
    config.criteria? = .ok ⟨config.table, config.table.stepWords⟩ := by
  rw [criteria?, RuleTable.criteria?, sound]

theorem audit_completes_iff_nameless :
    (∃ report, audit {} [namelessFeature] [] = .ok report) ∧
      audit strictConfig [namelessFeature] [] = .error .overflow ∧
      Guarded.audit strictConfig [namelessFeature] [] = .error (.inr .overflow) := by
  have lax : ({} : Config).table.error? = none := by decide +kernel
  have strict : strictConfig.table.error? = none := by decide +kernel
  obtain ⟨-, completes, -⟩ := audit_completes_iff {} [namelessFeature] []
  obtain ⟨-, overflows, guarded⟩ := audit_completes_iff strictConfig [namelessFeature] []
  have fails : audit strictConfig [namelessFeature] [] = .error .overflow :=
    (overflows _ (Config.criteria?_of_sound strict)).2.mpr (by decide +kernel)
  refine ⟨(completes _ (Config.criteria?_of_sound lax)).1.mpr (by decide +kernel), fails, ?_⟩
  rw [guarded, fails]
  rfl

end SuiteAudit
