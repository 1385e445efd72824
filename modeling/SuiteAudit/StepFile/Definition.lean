import SuiteAudit.ScoreCard
import SuiteAudit.SortedMap
import SuiteAudit.StepFile.Block
import SuiteAudit.StepFile.NestedCall

/-!
# Step definitions

A step definition matches steps by a pattern and runs a body, which may call other steps.
-/

namespace SuiteAudit

structure StepDefinition where
  card : ScoreCard
  pattern : Pattern
  source : Text
  parameters : List Text
  body : List Text
  nested : Sorted Location Text
  /-- The steps of the suite that reach the definition. -/
  calls : Sorted StepLocation Text := []

def codeLines (body : List Text) : List Text :=
  (body.map Text.trim).filter fun line => !line.isEmpty && !Line.isComment line

def parameterNames (t : Text) : List Text :=
  ((Text.split ',' t).map Text.trim).filter fun p => !p.isEmpty

/-- The nested calls of a body whose first line follows the line of `anchor`. -/
def nestedAt (anchor : Location) (body : List Text) : Sorted Location Text :=
  (nestedCalls body).map fun (n, t) => (anchor.atLine (anchor.line + n), t)

/-- The nested calls of a body, unless a line number is too large. -/
def nestedAt? (anchor : Location) (body : List Text) : Except Overflow (Sorted Location Text) :=
  let calls := nestedAt anchor body
  if calls.all fun e => e.1.line ≤ maxWord then .ok calls else .error .overflow

namespace StepSource

/-- The source without its delimiters. In quotes an escaped quote is a quote. -/
def text : StepSource → Text
  | regex source _ => source
  | quoted _ source => Text.replace "\\'" "'" (Text.replace "\\\"" "\"" source)

def pattern : StepSource → Pattern
  | regex source flags => Pattern.ofRegex source flags
  | s@(quoted _ _) => Pattern.ofExpression s.text

end StepSource

namespace StepDefinition

def ofBlock (file : SourcePath) (d : StepDeclaration) (b : Block) : StepDefinition :=
  let location : Location := ⟨file, b.line⟩
  { card := { location }
    pattern := d.source.pattern
    source := d.source.text
    parameters := parameterNames (d.block.parameters.getD [])
    body := b.body
    nested := nestedAt (if b.isInline then location.atLine (b.line - 1) else location) b.body }

def ofText (file : SourcePath) (t : Text) : List StepDefinition :=
  (Block.ofText t).filterMap fun b => match b.declaration with
    | .step d => some (ofBlock file d b)
    | .hook _ => none

def isMatch (d : StepDefinition) (step : Text) : Bool := d.pattern.isMatch (Line.stepText step)

def addCall (d : StepDefinition) (location : StepLocation) (step : Text) : StepDefinition :=
  { d with calls := Sorted.insert StepLocation.order location step d.calls }

def isDead (d : StepDefinition) : Bool := d.calls.isEmpty

def code (d : StepDefinition) : List Text := codeLines d.body

end StepDefinition

end SuiteAudit
