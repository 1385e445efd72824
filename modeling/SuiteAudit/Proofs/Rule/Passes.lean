import Mathlib.Logic.Function.Iterate
import SuiteAudit.Proofs.Suite.Score

/-!
# Repeated passes

Judging a node changes nothing but its card, and no check reads a card. So every pass over a node finds
the same violations, and after any number of passes over nodes that were just read, score and histogram
are those of one pass that many times.
-/

namespace SuiteAudit

namespace Criteria

/-- What a node of the kind has on its card after judging it `passes` times, if its card was empty
before and the checks find `vs` every time. -/
structure Judged (c : Criteria) (kind : NodeKind) (vs : List Violation) (passes : Nat)
    (before after : ScoreCard) : Prop where
  location : after.location = before.location
  score : after.score = passes * (c.weights kind vs).sum
  count : ∀ phrase, after.violations.count phrase = passes * (c.phrases kind vs).count phrase
  total : after.violations.total = passes * (c.firings kind vs).length
  order : after.violations.phrases = if passes = 0 then [] else (c.phrases kind vs).eraseDups

theorem apply_iterate (c : Criteria) (kind : NodeKind) (vs : List Violation) (n : Nat)
    (card : ScoreCard) :
    (fun card => c.apply kind card vs)^[n] card = c.apply kind card (List.replicate n vs).flatten := by
  induction n generalizing card with
  | zero => rfl
  | succ n ih =>
      rw [Function.iterate_succ_apply, ih, List.replicate_succ, List.flatten_cons, apply_append]

theorem firings_replicate (c : Criteria) (kind : NodeKind) (vs : List Violation) (n : Nat) :
    c.firings kind (List.replicate n vs).flatten = (List.replicate n (c.firings kind vs)).flatten := by
  simp only [firings, List.filter_flatten, List.map_replicate]

theorem weights_replicate (c : Criteria) (kind : NodeKind) (vs : List Violation) (n : Nat) :
    c.weights kind (List.replicate n vs).flatten = (List.replicate n (c.weights kind vs)).flatten := by
  simp only [weights, firings_replicate, List.map_flatten, List.map_replicate]

theorem phrases_replicate (c : Criteria) (kind : NodeKind) (vs : List Violation) (n : Nat) :
    c.phrases kind (List.replicate n vs).flatten = (List.replicate n (c.phrases kind vs)).flatten := by
  simp only [phrases, firings_replicate, List.map_flatten, List.map_replicate]

theorem judged_iterate (c : Criteria) (kind : NodeKind) (vs : List Violation) (n : Nat)
    (location : Location) :
    c.Judged kind vs n { location } ((fun card => c.apply kind card vs)^[n] { location }) := by
  rw [apply_iterate, apply_empty, phrases_replicate, weights_replicate]
  constructor
  case location => rfl
  case score => simp [List.sum_flatten]
  case count =>
    intro phrase
    simp [Histogram.tally_count, List.count_flatten]
  case total => simp [Histogram.tally_total, phrases]
  case order =>
    rw [Histogram.tally_phrases]
    cases n with
    | zero => rfl
    | succ n =>
        rw [if_neg (Nat.succ_ne_zero n), List.replicate_succ, List.flatten_cons,
          eraseDups_append_of_subset]
        intro phrase member
        obtain ⟨ps, replicated, inside⟩ := List.mem_flatten.mp member
        rwa [(List.mem_replicate.mp replicated).2] at inside

/-! ## Checks do not read cards -/

theorem evaluateScenario_iterate (c : Criteria) (inherited n : Nat) (s : Scenario) :
    (c.evaluateScenario inherited)^[n] s =
      { s with
        card := (fun card => c.apply s.nodeKind card (Check.scenario c s inherited))^[n] s.card } := by
  have pass : Function.Semiconj (fun card => { s with card })
      (fun card => c.apply s.nodeKind card (Check.scenario c s inherited))
      (c.evaluateScenario inherited) := fun _ => rfl
  exact (pass.iterate_right n s.card).symm

theorem evaluateDefinition_iterate (c : Criteria) (n : Nat) (d : StepDefinition) :
    c.evaluateDefinition^[n] d =
      { d with
        card := (fun card => c.apply .stepDefinition card (Check.stepDefinition c d))^[n] d.card } := by
  have pass : Function.Semiconj (fun card => { d with card })
      (fun card => c.apply .stepDefinition card (Check.stepDefinition c d))
      c.evaluateDefinition := fun _ => rfl
  exact (pass.iterate_right n d.card).symm

theorem evaluateHook_iterate (c : Criteria) (n : Nat) (h : Hook) :
    c.evaluateHook^[n] h =
      { h with card := (fun card => c.apply .hook card (Check.hook h))^[n] h.card } := by
  have pass : Function.Semiconj (fun card => { h with card })
      (fun card => c.apply .hook card (Check.hook h)) c.evaluateHook := fun _ => rfl
  exact (pass.iterate_right n h.card).symm

end Criteria

namespace Check

theorem sharedTags_map (f : Feature) {judge : Scenario → Scenario}
    (kept : ∀ s, (judge s).tags = s.tags) :
    sharedTags { f with scenarios := f.scenarios.map judge } = sharedTags f := by
  unfold sharedTags
  cases f.scenarios with
  | nil => rfl
  | cons first scenarios =>
      cases scenarios with
      | nil => rfl
      | cons second rest => simp [ownTags, kept, Function.comp_def]

theorem feature_map (c : Criteria) (f : Feature) (card : ScoreCard) (background : Scenario → Scenario)
    {judge : Scenario → Scenario} (kept : ∀ s, (judge s).tags = s.tags) :
    feature c { f with
      card, background := f.background.map background, scenarios := f.scenarios.map judge } =
      feature c f := by
  have shared := sharedTags_map f kept
  simp only [feature, featureSharing]
  simp only [sharedTags] at shared ⊢
  rw [shared]
  simp

end Check

namespace Criteria

theorem evaluateFeature_iterate (c : Criteria) (n : Nat) (f : Feature) :
    c.evaluateFeature^[n] f =
      { f with
        card := (fun card => c.apply .feature card (Check.feature c f))^[n] f.card
        background := f.background.map (c.evaluateScenario 0)^[n]
        scenarios := f.scenarios.map (c.evaluateScenario f.tags.length)^[n] } := by
  induction n with
  | zero => simp
  | succ n ih =>
      have kept (s : Scenario) : ((c.evaluateScenario f.tags.length)^[n] s).tags = s.tags := by
        rw [evaluateScenario_iterate]
      rw [Function.iterate_succ_apply', ih]
      simp only [evaluateFeature, Check.feature_map c f _ _ kept, Option.map_map, List.map_map,
        Function.iterate_succ']
      rfl

/-- The second scenario is the first one after `passes` passes: all but its card is as it was. -/
def JudgedScenario (c : Criteria) (kind : NodeKind) (inherited passes : Nat)
    (before after : Scenario) : Prop :=
  after = { before with card := after.card } ∧
    c.Judged kind (Check.scenario c before inherited) passes before.card after.card

theorem judgedScenario_iterate (c : Criteria) (inherited n : Nat) {s : Scenario} {kind : NodeKind}
    (same : s.nodeKind = kind) {location : Location} (empty : s.card = { location }) :
    c.JudgedScenario kind inherited n s ((c.evaluateScenario inherited)^[n] s) := by
  rw [evaluateScenario_iterate, same]
  refine ⟨rfl, ?_⟩
  rw [empty]
  exact c.judged_iterate kind _ n location

/-- After any number of passes over the nodes that were read from a text, the card of each holds what
its violations add in one pass, that many times, with the phrases in the order in which they fire first.
All else about the nodes is as it was read. -/
theorem evaluate_passes (c : Criteria) (file : SourcePath) (t : Text) (n : Nat) :
    (let f := Feature.ofText file t
      let g := c.evaluateFeature^[n] f
      g.name = f.name ∧ g.tags = f.tags ∧
        c.Judged .feature (Check.feature c f) n f.card g.card ∧
        Option.Rel (c.JudgedScenario .background 0 n) f.background g.background ∧
        List.Forall₂ (c.JudgedScenario .scenario f.tags.length n) f.scenarios g.scenarios) ∧
      (∀ d ∈ StepDefinition.ofText file t,
        let e := c.evaluateDefinition^[n] d
        e = { d with card := e.card } ∧
          c.Judged .stepDefinition (Check.stepDefinition c d) n d.card e.card) ∧
      ∀ h ∈ Hook.ofText file t,
        let k := c.evaluateHook^[n] h
        k = { h with card := k.card } ∧ c.Judged .hook (Check.hook h) n h.card k.card := by
  refine ⟨?_, ?_, ?_⟩
  · intro f g
    obtain ⟨line, card⟩ := Feature.ofText_card file t
    obtain ⟨background, scenarios⟩ := Feature.ofText_kindsMatch file t
    have judged : g = { f with
        card := (fun card => c.apply .feature card (Check.feature c f))^[n] f.card
        background := f.background.map (c.evaluateScenario 0)^[n]
        scenarios := f.scenarios.map (c.evaluateScenario f.tags.length)^[n] } :=
      c.evaluateFeature_iterate n f
    rw [judged]
    refine ⟨rfl, rfl, ?_, ?_, ?_⟩
    · show c.Judged _ _ n f.card ((fun card => c.apply .feature card (Check.feature c f))^[n] f.card)
      rw [card]
      exact c.judged_iterate .feature _ n _
    · cases here : f.background with
      | none => exact .none
      | some b =>
          have block : b ∈ f.blocks := by simp [Feature.blocks, here]
          obtain ⟨title, -, empty, -⟩ := Feature.ofText_mem_blocks block
          exact .some (c.judgedScenario_iterate 0 n (background b here) empty)
    · rw [List.forall₂_map_right_iff, List.forall₂_same]
      intro s member
      obtain ⟨title, -, empty, -⟩ :=
        Feature.ofText_mem_blocks (List.mem_append_right f.background.toList member)
      exact c.judgedScenario_iterate f.tags.length n (scenarios s member) empty
  · intro d member
    obtain ⟨line, card⟩ := StepDefinition.ofText_card member
    rw [evaluateDefinition_iterate]
    refine ⟨rfl, ?_⟩
    rw [card]
    exact c.judged_iterate .stepDefinition _ n _
  · intro h member
    obtain ⟨line, card⟩ := Hook.ofText_card member
    rw [evaluateHook_iterate]
    refine ⟨rfl, ?_⟩
    rw [card]
    exact c.judged_iterate .hook _ n _

/-- The standard rules, but a hook that wraps a block without naming it is called empty. -/
def sharedPhraseTable : RuleTable :=
  RuleTable.override Rule.standard
    [(.aroundHookWithout2Parameters, { phrase := some (Rule.standard .emptyHook).phrase })]

def wrappingHook : Hook :=
  { card := { location := ⟨⟨"hooks.rb"⟩, 1⟩ }
    kind := .around
    filters := ["@a", "@a"]
    parameters := []
    body := [] }

theorem evaluate_passes_sharedPhrase :
    let c : Criteria := ⟨sharedPhraseTable, sharedPhraseTable.stepWords⟩
    let k := c.evaluateHook^[3] wrappingHook
    wrappingHook ∈ Hook.ofText ⟨"hooks.rb"⟩ "Around('@a', '@a') do\nend" ∧
      k.card.score = 630 ∧ k.card.violations.count "Hook with no content." = 6 ∧
      k.card.violations.phrases = ["Hook with no content.", "Hook has duplicate tags."] := by
  intro c k
  have member : wrappingHook ∈ Hook.ofText ⟨"hooks.rb"⟩ "Around('@a', '@a') do\nend" := by
    decide +kernel
  obtain ⟨-, judged⟩ := (c.evaluate_passes ⟨"hooks.rb"⟩ "Around('@a', '@a') do\nend" 3).2.2 _ member
  refine ⟨member, ?_, ?_, ?_⟩
  · rw [judged.score]
    decide +kernel
  · rw [judged.count]
    decide +kernel
  · rw [judged.order]
    decide +kernel

end Criteria

end SuiteAudit
