import SuiteAudit.Feature.Basic

/-!
# Reading feature files

Any text is a feature: what has no place in one is left out, and what is missing stays empty.
-/

namespace SuiteAudit

structure NumberedLine where
  number : Nat
  text : Text
deriving DecidableEq, Repr

namespace NumberedLine

def countFrom (n : Nat) : List Text → List NumberedLine
  | [] => []
  | t :: ts => ⟨n, t⟩ :: countFrom (n + 1) ts

def ofText (t : Text) : List NumberedLine := countFrom 1 (Text.lines t)

end NumberedLine

namespace Feature

def beforeComment : Text → Text
  | [] => []
  | ' ' :: '#' :: _ => []
  | c :: t => c :: beforeComment t

/-- The tags on one line. A tag line that is commented out is one tag as it stands. -/
def tagsOfLine (line : Text) : List Text :=
  let line := Text.trim line
  if Line.isComment line then (if Line.isCommentedTags line then [line] else [])
  else if Line.startsWithTag line then Line.tags (beforeComment line)
  else []

def tagsOf (lines : List NumberedLine) : List Text := lines.flatMap fun l => tagsOfLine l.text

def endsName (line : Text) : Bool :=
  (Line.scenarioTitle? line).isSome || Line.isExamples line || Line.isTags line ||
    Line.isComment line || (Line.splitStep? line).isSome || Line.isRow line || Line.isFence line

/-- The lines of a description, trimmed and without blank ones, and the lines after it. -/
def readDescription : List NumberedLine → List Text × List NumberedLine
  | [] => ([], [])
  | l :: ls =>
    let line := Text.trim l.text
    if line.isEmpty then readDescription ls
    else if endsName line then ([], l :: ls)
    else
      let (rest, after) := readDescription ls
      (line :: rest, after)

/-- The name of a node, which is the rest of its title and the description below it, and the lines
after it. -/
def readName (title : Text) (lines : List NumberedLine) : Text × List NumberedLine :=
  let (description, after) := readDescription lines
  (Text.join [' '] ((if title.isEmpty then [] else [title]) ++ description), after)

def isTitle (line : Text) : Bool := (Line.scenarioTitle? line).isSome

/-- Cuts lines into segments of one title each. `current` is the segment being read, if a title was
met, and `pending` holds the lines since a tag line that may belong to the next title; both are kept
from the last line to the first. -/
def segmentsFrom (current : Option (List NumberedLine)) (pending : List NumberedLine) :
    List NumberedLine → List (List NumberedLine)
  | [] => (current.map fun segment => (pending ++ segment).reverse).toList
  | l :: ls =>
    if isTitle l.text then
      (current.map List.reverse).toList ++ segmentsFrom (some (l :: pending)) [] ls
    else if Line.isTags l.text ||
        (!pending.isEmpty && (Text.allBlank l.text || Line.isComment l.text)) then
      segmentsFrom current (l :: pending) ls
    else
      segmentsFrom (current.map fun segment => l :: (pending ++ segment)) [] ls

/-- The segments of a feature body. A segment starts at the tag lines right above its title, with
the blank lines and comments between them. -/
def segments (lines : List NumberedLine) : List (List NumberedLine) := segmentsFrom none [] lines

/-! ## Steps -/

/-- What is read of the steps of a scenario: the steps with their lines and the tables, each from
the last to the first entry, and whether a doc string is open. -/
structure StepReading where
  steps : List (Text × Nat) := []
  tables : Sorted Text (List Text) := []
  inDocString : Bool := false

def StepReading.read (r : StepReading) (l : NumberedLine) : StepReading :=
  let line := Text.trim l.text
  if Line.isFence line then { r with inDocString := !r.inDocString }
  else if r.inDocString || line.isEmpty || Line.startsWithTag line then r
  else if Line.isRow line then
    match r.steps with
    | [] => r
    | (step, _) :: _ =>
      { r with tables := r.tables.alter Text.order step fun rows => rows.getD [] ++ [line] }
  else { r with steps := (line, l.number) :: r.steps }

def withSteps (s : Scenario) (lines : List NumberedLine) : Scenario :=
  let r := lines.foldl StepReading.read {}
  let steps := r.steps.reverse
  { s with steps := steps.map Prod.fst, stepLines := steps.map Prod.snd, tables := r.tables }

def exampleLines (lines : List NumberedLine) : List Text :=
  (lines.map fun l => Text.trim l.text).filter fun line => Line.isComment line || Line.isRow line

/-! ## Scenarios and features -/

def readScenario? (file : SourcePath) (segment : List NumberedLine) : Option Scenario :=
  let above := segment.takeWhile fun l => !isTitle l.text
  match segment.drop above.length with
  | [] => none
  | title :: rest => do
    let (kind, start) ← Line.scenarioTitle? title.text
    let (name, body) := readName start rest
    let steps := body.takeWhile fun l => !Line.isExamples l.text
    let s : Scenario := { card := { location := ⟨file, title.number⟩ }, name, tags := tagsOf above, kind }
    let s := withSteps s steps
    return if kind.isOutline then { s with examples := exampleLines (body.drop steps.length) } else s

/-- The feature with one more block. A background counts only as the first block; scenarios inherit
the tags of the feature. -/
def addBlock (f : Feature) (s : Scenario) : Feature :=
  if s.kind = .background then
    if f.background.isNone && f.scenarios.isEmpty then { f with background := some s } else f
  else { f with scenarios := f.scenarios ++ [{ s with tags := s.tags ++ f.tags }] }

/-- The feature without its blocks, and the lines after its name. Without a title the feature starts
at the first line and has no name. -/
def readHeader (file : SourcePath) (lines : List NumberedLine) : Feature × List NumberedLine :=
  let above := lines.takeWhile fun l => (Line.featureTitle? l.text).isNone
  match lines.drop above.length with
  | [] => ({ card := { location := ⟨file, 1⟩ } }, lines)
  | title :: rest =>
    let (name, body) := readName ((Line.featureTitle? title.text).getD []) rest
    ({ card := { location := ⟨file, title.number⟩ }, name, tags := tagsOf above }, body)

def ofText (file : SourcePath) (t : Text) : Feature :=
  let (f, body) := readHeader file (NumberedLine.ofText t)
  ((segments body).filterMap (readScenario? file)).foldl addBlock f

end Feature

end SuiteAudit
