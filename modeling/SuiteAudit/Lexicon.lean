import SuiteAudit.Feature.Outline
import SuiteAudit.StepFile.NestedCall
import SuiteAudit.StepFile.Declaration
import SuiteAudit.StepFile.Smell
import SuiteAudit.StepFile.TagExpression

/-!
# The lexicon

One view of all the forms that the readers look for in lines: where a form occurs in a line, and what
its parts are. The parts have the names under which the readers know them; the part `0` is the whole
occurrence.
-/

namespace SuiteAudit

/-- An occurrence of a form by its parts. A part that is not there has no text. -/
abbrev Occurrence := List (String × Option Text)

inductive LineForm
  | featureTitle
  | scenarioTitle
  | examplesTitle
  | comment
  | tagStart
  | tag
  | commentedTag
  | tableRow
  | docStringFence
  | step
  | commentedStep
  | placeholder
  | date
  | stepDeclaration
  | hookDeclaration
  | quotedString
  | tagExpression
  | nestedCall
  | literalOpening
  | literalLastStep
  | literalClosing
  | keywordStep
  | sleep
  | printing
  | pending
  | todo
  | beginning
  | rescuing
  | universalPattern

namespace LineForm

def whole (line : Text) (parts : Occurrence) : List Occurrence := [("0", some line) :: parts]

def start (line : Text) (rest : Option Text) (parts : Occurrence) : List Occurrence :=
  match rest with
  | some rest => [("0", some (line.take (line.length - rest.length))) :: parts]
  | none => []

def blockParts (b : BlockStart) : Occurrence :=
  [("opener", some b.opener.text), ("params", b.parameters), ("inline", b.code),
   ("closed", if b.closed then some "\x7d".toList else none)]

def quotedParts (q : Char) (content : Text) : Occurrence :=
  [("dq", if q = '"' then some content else none), ("sq", if q = '"' then none else some content)]

def sourceParts : StepSource → Occurrence
  | .regex source flags =>
    [("regex", some source), ("flags", some flags), ("dq", none), ("sq", none)]
  | .quoted q content => ("regex", none) :: ("flags", none) :: quotedParts q content

def filterParts : HookFilter → Occurrence
  | .none => [("tags", none), ("bare_tags", none)]
  | .parenthesized t => [("tags", some t), ("bare_tags", none)]
  | .bare t => [("tags", none), ("bare_tags", some t)]

/-- The occurrences of a form in a line, from left to right. -/
def occurrences (form : LineForm) (line : Text) : List Occurrence :=
  match form with
  | featureTitle => match Line.featureTitle? line with
    | some name => whole line [("name", some name)]
    | none => []
  | scenarioTitle => match Line.scenarioTitle? line with
    | some (kind, name) => whole line [("type", some kind.text), ("name", some name)]
    | none => []
  | examplesTitle => start line (Line.afterExamples? line) []
  | comment => start line (Line.afterComment? line) []
  | tagStart => start line (Line.afterTag? line) []
  | tag => (Line.tags line).map fun t => [("0", some t)]
  | commentedTag => start line (Line.afterCommentTag? line) []
  | tableRow => if Line.isRow line then whole line [] else []
  | docStringFence => start line (Line.afterFence? line) []
  | step => match Line.step? line with
    | some s => whole line [("style", some s.keyword.text), ("text", s.text)]
    | none => []
  | commentedStep => start line (Line.afterCommentedStep? line) []
  | placeholder => (Placeholder.names line).map fun name =>
      [("0", some ('<' :: name ++ ['>'])), ("1", some name)]
  | date => (Line.dates line).map fun t => [("0", some t)]
  | stepDeclaration => match StepDeclaration.read? line with
    | some d => whole line (("style", some d.keyword) :: sourceParts d.source ++ blockParts d.block)
    | none => []
  | hookDeclaration => match HookDeclaration.read? line with
    | some d => whole line (("kind", some d.kind.text) :: filterParts d.filter ++ blockParts d.block)
    | none => []
  | quotedString => (Quoted.all line).map fun (q, content) =>
      ("0", some (q :: content ++ [q])) :: quotedParts q content
  | tagExpression => (TagToken.all line).map fun k =>
      [("0", some k.text), ("negation", k.negation), ("tag", some k.tag)]
  | nestedCall => match CallLine.string? line with
    | some (q, content) => whole line (quotedParts q content)
    | none => []
  | literalOpening => match CallLine.literalOpening? line with
    | some (singular, rest) =>
      whole line [("call", some (if singular then "step" else "steps")), ("rest", some rest)]
    | none => []
  | literalLastStep => match CallLine.lastStep? line with
    | some text => whole line [("text", some text)]
    | none => []
  | literalClosing => if CallLine.isClosing line then whole line [] else []
  | keywordStep => match CallLine.keywordText? line with
    | some text => whole line [("text", some text)]
    | none => []
  | sleep => match Smell.sleep? line with
    | some (seconds, rest) => start line (some rest) [("seconds", some seconds)]
    | none => []
  | printing => start line (Smell.afterPrinting? line) []
  | pending => start line (Smell.afterPending? line) []
  | todo => (Smell.todos line).map fun t => [("0", some t)]
  | beginning => start line (Smell.afterBegin? line) []
  | rescuing => start line (Smell.afterRescue? line) []
  | universalPattern => if Smell.isUniversal line then whole line [] else []

end LineForm

end SuiteAudit
