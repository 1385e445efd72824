import SuiteAudit.Rule.Evaluator
import SuiteAudit.Summary

/-!
# Settings

Thresholds and changes to the rule table.
-/

namespace SuiteAudit

structure Config where
  thresholds : Thresholds := {}
  rules : Sorted RuleId RuleOverride := []

namespace Config

def table (c : Config) : RuleTable := RuleTable.override Rule.standard c.rules

def criteria? (c : Config) : Except ConfigError Criteria := c.table.criteria?

end Config

end SuiteAudit
