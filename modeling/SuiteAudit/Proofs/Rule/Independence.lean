import SuiteAudit.Proofs.Rule.Passes

/-!
# Rules are independent

Disabling a rule takes away what the rule itself adds to a card and nothing else. The checks read the
conditions of the table whether a rule is enabled or not; only the words that steps should not use are
dropped with their rule. Two rules may say the same. The phrase then stands where the first of them
fires, so it can move when that one is disabled.
-/

namespace SuiteAudit

namespace RuleTable

theorem disable_of_ne {r other : RuleId} (ne : other ≠ r) (table : RuleTable) :
    table.disable r other = table other := if_neg ne

theorem disable_appliesTo (table : RuleTable) (r other : RuleId) (kind : NodeKind) :
    (table.disable r other).appliesTo kind = (decide (other ≠ r) && (table other).appliesTo kind) := by
  by_cases same : other = r
  · simp [disable, same, Rule.appliesTo]
  · simp [disable, same]

theorem disable_condition? (table : RuleTable) (r other : RuleId) (name : Text) :
    (table.disable r).condition? other name = table.condition? other name := by
  simp only [condition?, disable]
  split <;> rfl

theorem disable_stepWords {r : RuleId} (ne : r ≠ .implementationWord) (table : RuleTable) :
    (table.disable r).stepWords = table.stepWords := by
  simp only [stepWords, disable_of_ne ne.symm]

theorem criteria?_of_error? {table : RuleTable} (sound : table.error? = none) :
    table.criteria? = .ok ⟨table, table.stepWords⟩ := by
  rw [criteria?, sound]

theorem criteria?_eq_ok {table : RuleTable} {c : Criteria} (valid : table.criteria? = .ok c) :
    c = ⟨table, table.stepWords⟩ := by
  unfold criteria? at valid
  split at valid
  · cases valid
  · cases valid
    rfl

end RuleTable

/-! ## Checks without a rule -/

/-- Criteria that differ at most in whether `r` is enabled and in the words that only `r` looks for. -/
structure Criteria.AgreeBut (r : RuleId) (c c' : Criteria) : Prop where
  table : c'.table = c.table.disable r
  words : r ≠ .implementationWord → c'.words = c.words

theorem Criteria.agreeBut_of_ok {table : RuleTable} {r : RuleId} {c c' : Criteria}
    (valid : table.criteria? = .ok c) (valid' : (table.disable r).criteria? = .ok c') :
    c.AgreeBut r c' := by
  rw [RuleTable.criteria?_eq_ok valid, RuleTable.criteria?_eq_ok valid']
  exact ⟨rfl, fun ne => RuleTable.disable_stepWords ne table⟩

def Violation.others (r : RuleId) (vs : List Violation) : List Violation :=
  vs.filter fun v => v.rule ≠ r

namespace Check

open Violation (others)

variable {r : RuleId} {c c' : Criteria}

theorem condition?_agree (agree : c.AgreeBut r c') (id : RuleId) (name : Text) :
    c'.table.condition? id name = c.table.condition? id name := by
  rw [agree.table, RuleTable.disable_condition?]

theorem tags_agree (agree : c.AgreeBut r c') (all own : List Text) :
    tags c' all own = tags c all own := by
  simp only [tags, condition?_agree agree]

theorem feature_agree (agree : c.AgreeBut r c') (f : Feature) : feature c' f = feature c f := by
  simp only [feature, featureSharing, condition?_agree agree, tags_agree agree]

theorem examples_agree (agree : c.AgreeBut r c') (s : Scenario) : examples c' s = examples c s := by
  simp only [examples, condition?_agree agree]

theorem stepDefinition_agree (agree : c.AgreeBut r c') (d : StepDefinition) :
    stepDefinition c' d = stepDefinition c d := by
  have sleeps : sleep c' = sleep c := by
    funext seconds
    simp only [sleep, condition?_agree agree]
  simp only [stepDefinition, condition?_agree agree, sleeps]

theorem step_others (agree : c.AgreeBut r c') (t : Text) :
    others r (step c' t) = others r (step c t) := by
  have words : others r ((c'.words.filter fun w => w.2.isMatch t).map
        fun w => ⟨.implementationWord, some w.1⟩) =
      others r ((c.words.filter fun w => w.2.isMatch t).map
        fun w => ⟨.implementationWord, some w.1⟩) := by
    by_cases same : r = .implementationWord
    · -- All that the words find is found by the rule that is left out.
      have none (ws : List (Text × Regex)) :
          others r (ws.map fun w => ⟨.implementationWord, some w.1⟩) = [] := by
        rw [others, List.filter_eq_nil_iff]
        intro v found
        obtain ⟨w, -, rfl⟩ := List.mem_map.mp found
        simp [same]
      rw [none, none]
    · rw [agree.words same]
  simp only [others] at words ⊢
  simp only [step, List.filter_append, words]

theorem steps_others (agree : c.AgreeBut r c') (s : Scenario) :
    others r (steps c' s) = others r (steps c s) := by
  have live := step_others agree
  simp only [others] at live ⊢
  simp only [steps, condition?_agree agree, List.filter_append, List.filter_flatMap, live]

theorem scenario_others (agree : c.AgreeBut r c') (s : Scenario) (inherited : Nat) :
    others r (scenario c' s inherited) = others r (scenario c s inherited) := by
  have steps := steps_others agree s
  simp only [others] at steps ⊢
  simp only [scenario, scenarioOwning, tags_agree agree, examples_agree agree, List.filter_append,
    steps]

end Check

namespace Criteria

/-- The violations of `r` that fire on a node of the kind: all of them if `r` judges such nodes, and
none otherwise. -/
def share (c : Criteria) (r : RuleId) (kind : NodeKind) (vs : List Violation) : List Violation :=
  if (c.table r).appliesTo kind then vs.filter fun v => v.rule = r else []

/-- How two cards of a node of the kind are related, if the first was judged under `c`, where its checks
find `vs`, and the second under `c'`, where they find `vs'` and the rule `r` is disabled. -/
structure Independent (c c' : Criteria) (r : RuleId) (kind : NodeKind) (vs vs' : List Violation)
    (card card' : ScoreCard) : Prop where
  score : card.score = card'.score + (c.share r kind vs).length * (c.table r).score
  count : ∀ phrase, card.violations.count phrase =
    card'.violations.count phrase + ((c.share r kind vs).map (c.phrase kind)).count phrase
  /-- The other rules fire as they do with `r`, one after the other. -/
  firings : c'.firings kind vs' = (c.firings kind vs).filter fun v => v.rule ≠ r
  rules : ∀ v ∈ c'.firings kind vs', c'.table v.rule = c.table v.rule
  /-- Either card has its phrases in the order in which they fire first. -/
  order : card.violations.phrases = (c.phrases kind vs).eraseDups ∧
    card'.violations.phrases = (c'.phrases kind vs').eraseDups
  /-- What `r` does not say stands in the same order on both. -/
  entries : (card.violations.entries.filter fun e => e.1 ∉ (c.share r kind vs).map (c.phrase kind)) =
    card'.violations.entries.filter fun e => e.1 ∉ (c.share r kind vs).map (c.phrase kind)

section Apart

variable {c c' : Criteria} {r : RuleId} {kind : NodeKind} {vs vs' : List Violation}

theorem share_eq (c : Criteria) (r : RuleId) (kind : NodeKind) (vs : List Violation) :
    c.share r kind vs = (c.firings kind vs).filter fun v => v.rule = r := by
  rw [share, firings, List.filter_filter]
  split
  case isTrue applies =>
    apply List.filter_congr
    intro v member
    by_cases same : v.rule = r <;> simp [same, applies]
  case isFalse silent =>
    symm
    rw [List.filter_eq_nil_iff]
    intro v member
    by_cases same : v.rule = r <;> simp [same, silent]

theorem firings_others (table : c'.table = c.table.disable r)
    (same : Violation.others r vs' = Violation.others r vs) :
    c'.firings kind vs' = (c.firings kind vs).filter fun v => v.rule ≠ r := by
  have fires (ws : List Violation) : c'.firings kind ws =
      (Violation.others r ws).filter fun v => (c.table v.rule).appliesTo kind := by
    rw [firings, Violation.others, List.filter_filter]
    simp only [table, RuleTable.disable_appliesTo, Bool.and_comm]
  rw [fires, same, Violation.others, firings, List.filter_filter, List.filter_filter]
  simp only [Bool.and_comm]

theorem table_of_mem_firings (table : c'.table = c.table.disable r) {v : Violation}
    (member : v ∈ c'.firings kind vs) : c'.table v.rule = c.table v.rule := by
  have applies := (List.mem_filter.mp member).2
  rw [table, RuleTable.disable_appliesTo, Bool.and_eq_true, decide_eq_true_eq] at applies
  rw [table, RuleTable.disable_of_ne applies.1]

theorem firings_perm (table : c'.table = c.table.disable r)
    (same : Violation.others r vs' = Violation.others r vs) :
    (c.firings kind vs).Perm (c'.firings kind vs' ++ c.share r kind vs) := by
  rw [firings_others table same, share_eq]
  have parts := List.filter_append_perm (fun v : Violation => decide (v.rule ≠ r)) (c.firings kind vs)
  simpa using parts.symm

theorem phrases_others (table : c'.table = c.table.disable r) :
    c'.phrases kind vs' = (c'.firings kind vs').map (c.phrase kind) := by
  apply List.map_congr_left
  intro v member
  rw [phrase, phrase, table_of_mem_firings table member]

theorem weights_others (table : c'.table = c.table.disable r) :
    c'.weights kind vs' = (c'.firings kind vs').map fun v => (c.table v.rule).score := by
  apply List.map_congr_left
  intro v member
  rw [table_of_mem_firings table member]

theorem share_score (c : Criteria) (r : RuleId) (kind : NodeKind) (vs : List Violation) :
    ((c.share r kind vs).map fun v => (c.table v.rule).score).sum =
      (c.share r kind vs).length * (c.table r).score := by
  have costs : (c.share r kind vs).map (fun v => (c.table v.rule).score) =
      List.replicate (c.share r kind vs).length (c.table r).score := by
    rw [List.map_eq_replicate_iff]
    intro v member
    rw [share_eq, List.mem_filter, decide_eq_true_eq] at member
    rw [member.2]
  rw [costs, List.sum_replicate_nat]

theorem count_phrases_others (table : c'.table = c.table.disable r)
    (same : Violation.others r vs' = Violation.others r vs) (phrase : Text) :
    (c.phrases kind vs).count phrase =
      (c'.phrases kind vs').count phrase + ((c.share r kind vs).map (c.phrase kind)).count phrase := by
  rw [phrases_others table, phrases, ((firings_perm table same).map (c.phrase kind)).count_eq,
    List.map_append, List.count_append]

theorem phrases_filter_others (table : c'.table = c.table.disable r)
    (same : Violation.others r vs' = Violation.others r vs) :
    ((c.phrases kind vs).filter fun p => p ∉ (c.share r kind vs).map (c.phrase kind)) =
      (c'.phrases kind vs').filter fun p => p ∉ (c.share r kind vs).map (c.phrase kind) := by
  rw [phrases_others table, phrases, firings_others table same, List.filter_map, List.filter_map,
    List.filter_filter]
  congr 1
  -- A firing of the rule itself says what the rule says, so the first test already drops it.
  apply List.filter_congr
  intro v fires
  by_cases own : v.rule = r
  · have said : c.phrase kind v ∈ (c.share r kind vs).map (c.phrase kind) := by
      apply List.mem_map_of_mem
      rw [share_eq, List.mem_filter]
      exact ⟨fires, by simpa using own⟩
    simp only [Function.comp_apply, said, not_true_eq_false, decide_false, Bool.false_and]
  · simp [own]

theorem tally_entries_filter_others (table : c'.table = c.table.disable r)
    (same : Violation.others r vs' = Violation.others r vs) :
    ((Histogram.tally (c.phrases kind vs)).entries.filter
        fun e => e.1 ∉ (c.share r kind vs).map (c.phrase kind)) =
      (Histogram.tally (c'.phrases kind vs')).entries.filter
        fun e => e.1 ∉ (c.share r kind vs).map (c.phrase kind) := by
  simp only [Histogram.entries_eq, List.filter_map, Function.comp_def,
    Histogram.tally_phrases, Histogram.tally_count]
  rw [← eraseDups_filter, ← eraseDups_filter, phrases_filter_others table same]
  apply List.map_congr_left
  intro p member
  rw [List.mem_eraseDups, List.mem_filter, decide_eq_true_eq] at member
  rw [count_phrases_others table same p, List.count_eq_zero_of_not_mem member.2, Nat.add_zero]

theorem apply_independent (table : c'.table = c.table.disable r)
    (same : Violation.others r vs' = Violation.others r vs) (location : Location) :
    Independent c c' r kind vs vs' (c.apply kind { location } vs) (c'.apply kind { location } vs') := by
  rw [apply_empty, apply_empty]
  constructor
  case score =>
    rw [weights_others table, weights,
      ((firings_perm table same).map fun v => (c.table v.rule).score).sum_nat, List.map_append,
      List.sum_append_nat, share_score]
  case count =>
    intro p
    rw [Histogram.tally_count, Histogram.tally_count, count_phrases_others table same]
  case firings => exact firings_others table same
  case rules => exact fun v member => table_of_mem_firings table member
  case order => exact ⟨Histogram.tally_phrases _, Histogram.tally_phrases _⟩
  case entries => exact tally_entries_filter_others table same

end Apart

theorem evaluateScenario_independent {c c' : Criteria} {r : RuleId} (agree : c.AgreeBut r c')
    (inherited : Nat) {s : Scenario} {kind : NodeKind} (same : s.nodeKind = kind) {location : Location}
    (empty : s.card = { location }) :
    Independent c c' r kind (Check.scenario c s inherited) (Check.scenario c' s inherited)
      (c.evaluateScenario inherited s).card (c'.evaluateScenario inherited s).card := by
  simp only [evaluateScenario, same, empty]
  exact apply_independent agree.table (Check.scenario_others agree s inherited) location

/-- On every node that was read from a text, disabling a rule takes away what the violations of the rule
cost and say there. The violations of the other rules fire as before. -/
theorem disable_independent {table : RuleTable} {r : RuleId} {c c' : Criteria}
    (valid : table.criteria? = .ok c) (valid' : (table.disable r).criteria? = .ok c')
    (file : SourcePath) (t : Text) :
    (let f := Feature.ofText file t
      let g := c.evaluateFeature f
      let g' := c'.evaluateFeature f
      Independent c c' r .feature (Check.feature c f) (Check.feature c' f) g.card g'.card ∧
        (∀ b, f.background = some b → ∃ x x', g.background = some x ∧ g'.background = some x' ∧
          Independent c c' r .background (Check.scenario c b 0) (Check.scenario c' b 0) x.card x'.card) ∧
        ∀ (i : Nat) (s : Scenario), f.scenarios[i]? = some s →
          ∃ x x', g.scenarios[i]? = some x ∧ g'.scenarios[i]? = some x' ∧
            Independent c c' r .scenario (Check.scenario c s f.tags.length)
              (Check.scenario c' s f.tags.length) x.card x'.card) ∧
      (∀ d ∈ StepDefinition.ofText file t,
        Independent c c' r .stepDefinition (Check.stepDefinition c d) (Check.stepDefinition c' d)
          (c.evaluateDefinition d).card (c'.evaluateDefinition d).card) ∧
      ∀ h ∈ Hook.ofText file t,
        Independent c c' r .hook (Check.hook h) (Check.hook h)
          (c.evaluateHook h).card (c'.evaluateHook h).card := by
  have agree := agreeBut_of_ok valid valid'
  refine ⟨?_, ?_, ?_⟩
  · intro f g g'
    obtain ⟨background, scenarios⟩ := Feature.ofText_kindsMatch file t
    refine ⟨?_, ?_, ?_⟩
    · obtain ⟨line, empty⟩ := Feature.ofText_card file t
      simp only [g, g', f, evaluateFeature, empty]
      exact apply_independent agree.table (by rw [Check.feature_agree agree]) ⟨file, line⟩
    · intro b here
      have block : b ∈ f.blocks := by simp [Feature.blocks, here]
      obtain ⟨title, -, empty, -⟩ := Feature.ofText_mem_blocks block
      refine ⟨c.evaluateScenario 0 b, c'.evaluateScenario 0 b, ?_, ?_,
        evaluateScenario_independent agree 0 (background b here) empty⟩
      · simp only [g, evaluateFeature, here, Option.map_some]
      · simp only [g', evaluateFeature, here, Option.map_some]
    · intro i s here
      have member := List.mem_of_getElem? here
      obtain ⟨title, -, empty, -⟩ :=
        Feature.ofText_mem_blocks (List.mem_append_right f.background.toList member)
      refine ⟨c.evaluateScenario f.tags.length s, c'.evaluateScenario f.tags.length s, ?_, ?_,
        evaluateScenario_independent agree f.tags.length (scenarios s member) empty⟩
      · simp only [g, evaluateFeature, List.getElem?_map, here, Option.map_some]
      · simp only [g', evaluateFeature, List.getElem?_map, here, Option.map_some]
  · intro d member
    obtain ⟨line, empty⟩ := StepDefinition.ofText_card member
    simp only [evaluateDefinition, empty]
    exact apply_independent agree.table (by rw [Check.stepDefinition_agree agree]) ⟨file, line⟩
  · intro h member
    obtain ⟨line, empty⟩ := Hook.ofText_card member
    simp only [evaluateHook, empty]
    exact apply_independent agree.table rfl ⟨file, line⟩

theorem disable_independent_sharedPhrase :
    let table := sharedPhraseTable
    let c : Criteria := ⟨table, table.stepWords⟩
    let c' : Criteria := ⟨table.disable .emptyHook, (table.disable .emptyHook).stepWords⟩
    table.criteria? = .ok c ∧ (table.disable .emptyHook).criteria? = .ok c' ∧
      wrappingHook ∈ Hook.ofText ⟨"hooks.rb"⟩ "Around('@a', '@a') do\nend" ∧
      (c.evaluateHook wrappingHook).card.score = (c'.evaluateHook wrappingHook).card.score + 100 ∧
      (c.evaluateHook wrappingHook).card.violations.count "Hook with no content." =
        (c'.evaluateHook wrappingHook).card.violations.count "Hook with no content." + 1 := by
  intro table c c'
  have valid : table.criteria? = .ok c := RuleTable.criteria?_of_error? (by decide +kernel)
  have valid' : (table.disable .emptyHook).criteria? = .ok c' :=
    RuleTable.criteria?_of_error? (by decide +kernel)
  have member : wrappingHook ∈ Hook.ofText ⟨"hooks.rb"⟩ "Around('@a', '@a') do\nend" := by
    decide +kernel
  have judged := (disable_independent valid valid' ⟨"hooks.rb"⟩
    "Around('@a', '@a') do\nend").2.2 wrappingHook member
  have share : (c.share .emptyHook .hook (Check.hook wrappingHook)).length * (c.table .emptyHook).score
      = 100 := by decide +kernel
  have said : ((c.share .emptyHook .hook (Check.hook wrappingHook)).map (c.phrase .hook)).count
      ("Hook with no content." : Text) = 1 := by decide +kernel
  refine ⟨valid, valid', member, ?_, ?_⟩
  · rw [judged.score, share]
  · rw [judged.count, said]

/-- A rule that fires first and says what a later one says holds the place of the phrase for it. -/
theorem disable_moves_sharedPhrase :
    let table := sharedPhraseTable
    let c : Criteria := ⟨table, table.stepWords⟩
    let c' : Criteria := ⟨table.disable .emptyHook, (table.disable .emptyHook).stepWords⟩
    table.criteria? = .ok c ∧ (table.disable .emptyHook).criteria? = .ok c' ∧
      wrappingHook ∈ Hook.ofText ⟨"hooks.rb"⟩ "Around('@a', '@a') do\nend" ∧
      (c.evaluateHook wrappingHook).card.violations.phrases =
        ["Hook with no content.", "Hook has duplicate tags."] ∧
      (c'.evaluateHook wrappingHook).card.violations.phrases =
        ["Hook has duplicate tags.", "Hook with no content."] := by
  refine ⟨RuleTable.criteria?_of_error? ?_, RuleTable.criteria?_of_error? ?_, ?_, ?_, ?_⟩
  all_goals decide +kernel

end Criteria

end SuiteAudit
