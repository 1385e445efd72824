import SuiteAudit.Config
import SuiteAudit.Toml.Reader

/-!
# Reading settings

Settings are a TOML document with the tables `thresholds` and `rules`. Every name in it has to be
known and every value has to be of its kind; what is not given keeps its default.
-/

namespace SuiteAudit

namespace Toml.Value

def text? : Value → Option Text
  | .text t => some t
  | _ => none

def isBlank : Value → Bool
  | .array [] | .table _ [] => true
  | _ => false

/-- One of several names: a text, or the only key of a table, with nothing below it. -/
def name? : Value → Option Text
  | .text t => some t
  | .table _ [(name, v)] => if v.isBlank then some name else none
  | _ => none

def boolean? : Value → Option Bool
  | .boolean b => some b
  | _ => none

def score? : Value → Option Nat
  | .integer n => if 0 ≤ n && n ≤ maxScore then some n.toNat else none
  | _ => none

/-- A number as the value of a condition. Whole numbers are taken if they fit into 64 bits, with or
without sign. -/
def number? : Value → Option Float
  | .decimal x => some x
  | .integer n =>
    if -0x8000000000000000 ≤ n && n ≤ 0xFFFFFFFFFFFFFFFF then
      some (if n < 0 then -Float.ofNat n.natAbs else Float.ofNat n.toNat)
    else none
  | _ => none

def list? {α : Type} (read : Value → Option α) : Value → Option (List α)
  | .array vs => vs.mapM read
  | .tables ts => (ts.map (.table .headed)).mapM read
  | _ => none

/-- The fields of a record: a table with no other names than those given, or the values of the
first fields in their order. -/
def fields? (names : List Text) : Value → Option Entries
  | .table _ es => if es.all fun e => names.contains e.1 then some es else none
  | .array vs => some (names.zip vs)
  | _ => none

end Toml.Value

open Toml (Entries Value)

/-- The field of a record, if it is there; a field that is there has to be readable. -/
def Toml.Entries.field? {α : Type} (es : Entries) (name : String) (read : Value → Option α) :
    Option (Option α) :=
  match es.lookup name.toList with
  | some v => (read v).map some
  | none => some none

namespace Thresholds

def names : List Text := ["feature", "scenario", "step_definition", "hook", "project"]

def ofValue? (v : Value) : Option Thresholds := do
  let es ← v.fields? names
  let standard : Thresholds := {}
  let feature ← es.field? "feature" Value.score?
  let scenario ← es.field? "scenario" Value.score?
  let stepDefinition ← es.field? "step_definition" Value.score?
  let hook ← es.field? "hook" Value.score?
  let project ← es.field? "project" Value.score?
  some
    { feature := feature.getD standard.feature
      scenario := scenario.getD standard.scenario
      stepDefinition := stepDefinition.getD standard.stepDefinition
      hook := hook.getD standard.hook
      project := project.getD standard.project }

end Thresholds

namespace RuleOverride

def names : List Text := ["enabled", "phrase", "score", "targets", "conditions", "words"]

/-- The kinds of nodes in a list, in their order and each once. -/
def targets? (v : Value) : Option (List NodeKind) := do
  let kinds ← v.list? fun v => v.name?.bind NodeKind.ofText?
  some (NodeKind.all.filter kinds.contains)

def conditions? : Value → Option (Sorted Text Float)
  | .table _ es => do
    let entries ← es.mapM fun (name, v) => v.number?.map fun x => (name, x)
    some (Sorted.insertAll Text.order entries [])
  | _ => none

def ofValue? (v : Value) : Option RuleOverride := do
  let es ← v.fields? names
  let enabled ← es.field? "enabled" Value.boolean?
  let phrase ← es.field? "phrase" Value.text?
  let score ← es.field? "score" Value.score?
  let targets ← es.field? "targets" targets?
  let conditions ← es.field? "conditions" conditions?
  let words ← es.field? "words" (Value.list? Value.text?)
  some { enabled, phrase, score, targets, conditions, words }

def table? : Value → Option (Sorted RuleId RuleOverride)
  | .table _ es => do
    let entries ← es.mapM fun (name, v) => do some (← RuleId.ofText? name, ← ofValue? v)
    some (Sorted.insertAll RuleId.order entries [])
  | _ => none

end RuleOverride

namespace Config

def ofEntries? (es : Entries) : Option Config := do
  let es ← (Value.table .headed es).fields? ["thresholds", "rules"]
  let thresholds ← es.field? "thresholds" Thresholds.ofValue?
  let rules ← es.field? "rules" RuleOverride.table?
  some { thresholds := thresholds.getD {}, rules := rules.getD [] }

def ofText (t : Text) : Except ConfigError Config :=
  match (Toml.document? t).bind ofEntries? with
  | some c => .ok c
  | none => .error .unreadable

end Config

end SuiteAudit
