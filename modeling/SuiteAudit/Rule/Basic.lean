import SuiteAudit.Rule.Id
import SuiteAudit.ScoreCard
import SuiteAudit.SortedMap

/-!
# The rule table

What each rule says when it fires, what it costs, which nodes it judges, and how settings change
that.
-/

namespace SuiteAudit

/-- A rule of the table. The phrase may hold `{class}`, and `{tag}` or `{word}` for rules that name
what they found. -/
structure Rule where
  enabled : Bool := true
  phrase : Text
  score : Nat
  targets : List NodeKind
  conditions : Sorted Text Float := []
  words : List Text := []

namespace Rule

def of (phrase : String) (score : Nat) (targets : List NodeKind) : Rule :=
  { phrase := phrase.toList, score, targets }

def withCondition (r : Rule) (name : String) (value : Float) : Rule :=
  { r with conditions := Sorted.insert Text.order name.toList value r.conditions }

def withWords (r : Rule) (words : List String) : Rule := { r with words := words.map String.toList }

def appliesTo (r : Rule) (kind : NodeKind) : Bool := r.enabled && r.targets.contains kind

def condition? (r : Rule) (name : Text) : Option Float := Sorted.get? Text.order name r.conditions

def render (r : Rule) (kind : NodeKind) (detail : Option Text) : Text :=
  let phrase := Text.replace "\x7bclass\x7d" kind.text r.phrase
  match detail with
  | some d => Text.replace "\x7bword\x7d" d (Text.replace "\x7btag\x7d" d phrase)
  | none => phrase

/-! ## Defaults -/

/-- The suite cannot run. -/
def fatal : Nat := 100

def error : Nat := 25

def warning : Nat := 10

def info : Nat := 1

def implementationWords : List String :=
  ["page", "site", "url", "drop down", "dropdown", "select list", "click", "text box", "radio button",
   "check box", "xml", "window", "pop up", "pop-up", "screen", "tab", "database", "DB"]

def standard : RuleId → Rule
  | .noDescription => of "\x7bclass\x7d has no description." warning [.feature, .scenario]
  | .numbersInDescription =>
    of "\x7bclass\x7d has numbers in the description."
      warning [.feature, .background, .scenario]
  | .emptyFeature => of "Feature with no content." warning [.feature]
  | .backgroundWithNoScenarios =>
    of "Feature has a background with no scenarios."
      warning [.feature]
  | .backgroundWithOneScenario =>
    of "Feature has a background with one scenario."
      warning [.feature]
  | .tooManyScenarios =>
    (of "Feature with too many scenarios." info [.feature]).withCondition "max" 10.0
  | .sameTagOnAllScenarios =>
    of "Same tag appears on all scenarios: \x7btag\x7d."
      warning [.feature]
  | .tooManyTags =>
    (of "\x7bclass\x7d has too many tags." info [.feature, .scenario]).withCondition "max" 8.0
  | .duplicateTag =>
    of "\x7bclass\x7d has a duplicate tag: \x7btag\x7d."
      warning [.feature, .scenario]
  | .commentedTag =>
    of "\x7bclass\x7d has a commented out tag."
      info [.feature, .background, .scenario]
  | .backgroundWithTag =>
    of "There is a background with a tag. This feature file cannot run!"
      fatal [.background]
  | .noSteps => of "No steps in \x7bclass\x7d." error [.background, .scenario]
  | .tooManySteps =>
    (of "\x7bclass\x7d with too many steps." warning [.background, .scenario]).withCondition
      "max" 7.0
  | .outOfOrderSteps => of "Scenario steps out of Given/When/Then order." warning [.scenario]
  | .invalidFirstStep =>
    of "Invalid first step. Began with And/But."
      warning [.background, .scenario]
  | .asteriskStep =>
    of "Step includes a * instead of Given/When/Then/And/But."
      warning [.background, .scenario]
  | .oneWordStep => of "Step that is only one word long." error [.background, .scenario]
  | .commentedStep => of "Commented step." error [.background, .scenario]
  | .implementationWord =>
    (of "Implementation word used: \x7bword\x7d." info [.background, .scenario]).withWords
      implementationWords
  | .dateUsed => of "Date used." info [.background, .scenario]
  | .noExamplesTable => of "Scenario Outline with no examples table." error [.scenario]
  | .noExamples => of "Scenario Outline with no examples." warning [.scenario]
  | .oneExample => of "Scenario Outline with only one example." warning [.scenario]
  | .tooManyExamples =>
    (of "Scenario Outline with too many examples." warning [.scenario]).withCondition "max" 10.0
  | .commentedExample => of "Comment line in Examples table." info [.scenario]
  | .noCode => of "No code in Step Definition." error [.stepDefinition]
  | .tooManyParameters =>
    (of "Too many parameters in Step Definition." warning [.stepDefinition]).withCondition "max" 4.0
  | .nestedStep => of "Nested step call." info [.stepDefinition]
  | .recursiveNestedStep => of "Recursive nested step call." fatal [.stepDefinition]
  | .universalMatch => of "Step definition matches every step." error [.stepDefinition]
  | .commentedCode => of "Commented code in \x7bclass\x7d." info [.stepDefinition, .hook]
  | .lazyDebugging =>
    of "Lazy debugging through puts, p, or print."
      warning [.stepDefinition, .hook]
  | .pending => of "Pending step definition. Implement or remove." warning [.stepDefinition]
  | .smallSleep =>
    (of "Small sleeps used. Use a wait_until like method." info [.stepDefinition]).withCondition
      "max" 2.0
  | .largeSleep =>
    (of "Large sleeps used. Use a wait_until like method." info [.stepDefinition]).withCondition
      "min" 2.0
  | .todo => of "Todo found. Resolve it." info [.stepDefinition, .hook]
  | .emptyHook => of "Hook with no content." fatal [.hook]
  | .hookAllComments => of "Hook is only comments." error [.hook]
  | .hookNoDebugging =>
    of "Hook without a begin/rescue. Reduced visibility when debugging."
      info [.hook]
  | .hookConflictingTags =>
    of "Hook that both expects and ignores the same tag. This hook will not function as expected."
      error [.hook]
  | .hookDuplicateTags => of "Hook has duplicate tags." warning [.hook]
  | .aroundHookWithout2Parameters =>
    of "Around hook without 2 parameters for Scenario and Block."
      fatal [.hook]
  | .aroundHookNoBlockCall => of "Around hook does not call its block." fatal [.hook]

end Rule

/-! ## Settings -/

structure RuleOverride where
  enabled : Option Bool := none
  phrase : Option Text := none
  score : Option Nat := none
  targets : Option (List NodeKind) := none
  conditions : Option (Sorted Text Float) := none
  words : Option (List Text) := none

namespace Rule

/-- The rule with settings applied. Conditions are added to those that are there; all else is
replaced. -/
def override (r : Rule) (o : RuleOverride) : Rule :=
  { enabled := o.enabled.getD r.enabled
    phrase := o.phrase.getD r.phrase
    score := o.score.getD r.score
    targets := o.targets.getD r.targets
    conditions := Sorted.insertAll Text.order (o.conditions.getD []) r.conditions
    words := o.words.getD r.words }

end Rule

abbrev RuleTable := RuleId → Rule

namespace RuleTable

def override (table : RuleTable) (overrides : Sorted RuleId RuleOverride) : RuleTable := fun id =>
  match overrides.lookup id with
  | some o => (table id).override o
  | none => table id

def disable (table : RuleTable) (id : RuleId) : RuleTable := fun other =>
  if other = id then { table other with enabled := false } else table other

def enabled (table : RuleTable) : List RuleId := RuleId.all.filter fun id => (table id).enabled

def condition? (table : RuleTable) (id : RuleId) (name : Text) : Option Float :=
  (table id).condition? name

end RuleTable

end SuiteAudit
