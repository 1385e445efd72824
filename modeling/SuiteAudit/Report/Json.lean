import SuiteAudit.JsonValue
import SuiteAudit.Suite

/-!
# Reports as JSON

Maps become objects in the order of the map.
-/

namespace SuiteAudit

open JsonValue

namespace Histogram

def json (h : Histogram) : JsonValue := object (h.entries.map fun (p, n) => (p, number n))

end Histogram

namespace ScoreCard

/-- The fields with which every node starts. -/
def jsonFields (c : ScoreCard) : List (String × JsonValue) :=
  [("location", text c.location.text), ("score", number c.score),
   ("violations", c.violations.json)]

def json (c : ScoreCard) : JsonValue := record c.jsonFields

end ScoreCard

namespace Scenario

def json (s : Scenario) : JsonValue :=
  record (s.card.jsonFields ++
    [("name", text s.name), ("tags", texts s.tags), ("type", text s.kind.text),
     ("steps", texts s.steps), ("step_lines", array (s.stepLines.map number)),
     ("inline_tables", object (s.tables.map fun (step, rows) => (step, texts rows))),
     ("examples_table", texts s.examples)])

end Scenario

namespace Feature

def json (f : Feature) : JsonValue :=
  record (f.card.jsonFields ++
    [("name", text f.name), ("tags", texts f.tags), ("background", orNull Scenario.json f.background),
     ("scenarios", array (f.scenarios.map Scenario.json))])

end Feature

namespace StepDefinition

def json (d : StepDefinition) : JsonValue :=
  record (d.card.jsonFields ++
    [("pattern", text d.source), ("parameters", texts d.parameters), ("body_lines", texts d.body),
     ("nested_steps", object (d.nested.map fun (l, t) => (l.text, text t))),
     ("calls", object (d.calls.map fun (l, t) => (l.text, text t)))])

end StepDefinition

namespace Hook

def json (h : Hook) : JsonValue :=
  record (h.card.jsonFields ++
    [("type", text h.kind.text), ("tag_filters", texts h.filters),
     ("parameters", texts h.parameters), ("body_lines", texts h.body)])

end Hook

namespace DeadSteps

def json (d : DeadSteps) : JsonValue :=
  record
    [("by_file", object (d.byFile.map fun (file, entries) => (file.text, texts entries))),
     ("total", number d.total)]

end DeadSteps

namespace Thresholds

def json (t : Thresholds) : JsonValue :=
  record
    [("feature", number t.feature), ("scenario", number t.scenario),
     ("step_definition", number t.stepDefinition), ("hook", number t.hook),
     ("project", number t.project)]

end Thresholds

namespace CategorySummary

def json (s : CategorySummary) : JsonValue :=
  let place : Option Extreme → JsonValue := orNull fun e => text e.location.text
  record
    [("total", number s.total), ("total_score", number s.totalScore), ("min", number s.minimum),
     ("min_location", place s.least), ("max", number s.maximum),
     ("max_location", place s.greatest), ("average", hundredths s.averageHundredths),
     ("threshold", number s.threshold), ("good", number s.good), ("bad", number s.bad),
     ("improvement_list", s.improvements.json)]

end CategorySummary

namespace SuiteSummary

def json (s : SuiteSummary) : JsonValue :=
  record
    [("features", s.features.json), ("scenarios", s.scenarios.json),
     ("step_definitions", s.definitions.json), ("hooks", s.hooks.json),
     ("total_score", number s.totalScore), ("thresholds", s.thresholds.json),
     ("improvement_list", s.improvements.json)]

end SuiteSummary

namespace SuiteReport

def json (r : SuiteReport) : JsonValue :=
  record
    [("features", array (r.suite.features.map Feature.json)),
     ("step_definitions", array (r.suite.definitions.map StepDefinition.json)),
     ("hooks", array (r.suite.hooks.map Hook.json)), ("dead_steps", r.dead.json),
     ("summary", r.summary.json)]

def jsonText (r : SuiteReport) : Text := r.json.pretty ++ ['\n']

end SuiteReport

end SuiteAudit
