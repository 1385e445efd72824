import SuiteAudit.Rule.Check

/-!
# Evaluation

A rule table that makes sense judges nodes: every violation of a rule that is enabled for the kind
of node adds the cost of the rule to the score and its phrase to the histogram.
-/

namespace SuiteAudit

inductive ConfigError
  | unreadable
  | noRules
  | noTargets (id : RuleId)
  | noCondition (id : RuleId) (name : Text)
deriving DecidableEq, Repr

def configFileName : Text := ".bddsniff.toml"

def ConfigError.reason : ConfigError → Text
  | unreadable => "Failed to parse ".toList ++ configFileName
  | noRules => "no rules are enabled"
  | noTargets id => "rule `".toList ++ id.text ++ "` is enabled but has no targets".toList
  | noCondition id name =>
    "rule `".toList ++ id.text ++ "` requires the `".toList ++ name ++ "` condition".toList

def ConfigError.message (e : ConfigError) : Text := "Configuration error: ".toList ++ e.reason

namespace RuleTable

/-- What is wrong with one rule, if it is enabled. -/
def ruleError? (table : RuleTable) (id : RuleId) : Option ConfigError :=
  let rule := table id
  if !rule.enabled then none
  else if rule.targets.isEmpty then some (.noTargets id)
  else (id.requiredConditions.find? fun name => (rule.condition? name).isNone).map (.noCondition id ·)

/-- What is wrong with the table, the first fault in the order of the rules. -/
def error? (table : RuleTable) : Option ConfigError :=
  if table.enabled.isEmpty then some .noRules else RuleId.all.findSome? table.ruleError?

def stepWords (table : RuleTable) : List (Text × Regex) :=
  let rule := table .implementationWord
  let boundary := Regex.place (.wordBoundary false)
  if rule.enabled then
    rule.words.map fun w => (w, .seq boundary (.seq (Regex.caselessLiteral w) boundary))
  else []

def criteria? (table : RuleTable) : Except ConfigError Criteria :=
  match table.error? with
  | some e => .error e
  | none => .ok ⟨table, table.stepWords⟩

end RuleTable

namespace Criteria

def store (c : Criteria) (kind : NodeKind) (card : ScoreCard) (v : Violation) : ScoreCard :=
  let rule := c.table v.rule
  if rule.appliesTo kind then card.store (rule.render kind v.detail) rule.score else card

def apply (c : Criteria) (kind : NodeKind) (card : ScoreCard) (vs : List Violation) : ScoreCard :=
  vs.foldl (c.store kind) card

def evaluateScenario (c : Criteria) (inherited : Nat) (s : Scenario) : Scenario :=
  { s with card := c.apply s.nodeKind s.card (Check.scenario c s inherited) }

def evaluateFeature (c : Criteria) (f : Feature) : Feature :=
  { f with
    card := c.apply .feature f.card (Check.feature c f)
    background := f.background.map (c.evaluateScenario 0)
    scenarios := f.scenarios.map (c.evaluateScenario f.tags.length) }

def evaluateDefinition (c : Criteria) (d : StepDefinition) : StepDefinition :=
  { d with card := c.apply .stepDefinition d.card (Check.stepDefinition c d) }

def evaluateHook (c : Criteria) (h : Hook) : Hook :=
  { h with card := c.apply .hook h.card (Check.hook h) }

end Criteria

end SuiteAudit
