import SuiteAudit.Config

/-!
# The settings file to start from

The default thresholds, and all rules with their scores and phrases as comments.
-/

namespace SuiteAudit.Config

def setting (name : String) (n : Nat) : Text := name.toList ++ " = ".toList ++ Text.ofNat n

def ruleComment (id : RuleId) : Text :=
  let rule := Rule.standard id
  "#   ".toList ++ id.text ++ " (".toList ++ Text.ofNat rule.score ++ ") ".toList ++ rule.phrase

def templateLines : List Text :=
  let t : Thresholds := {}
  let head : List Text :=
    ["# bddsniff configuration", "", "[thresholds]", setting "feature" t.feature,
     setting "scenario" t.scenario, setting "step_definition" t.stepDefinition,
     setting "hook" t.hook, setting "project" t.project, "",
     "# Rules can be overridden by id, for example:", "#", "# [rules.too_many_steps]",
     "# score = 50", "# conditions = \x7b max = 10 \x7d", "#",
     "# Available rules (score, phrase):"]
  head ++ RuleId.all.map ruleComment

def template : Text := templateLines.flatMap (· ++ ['\n'])

end SuiteAudit.Config
