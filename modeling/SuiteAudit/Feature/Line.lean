import SuiteAudit.Text.Property

/-!
# Lines of a feature file

What kind of line a line of a feature file is: a title, a step, a tag line, a comment, a table row,
the fence of a doc string. White space around a line never matters. A function whose name ends in
`?` gives what the line says or, where nothing is said, the text after the mark that was looked for.
-/

namespace SuiteAudit

/-! ## Step keywords -/

inductive StepKeyword
  | given
  /-- `When`. -/
  | action
  /-- `Then`. -/
  | outcome
  | and
  | but
  | or
  | star
deriving DecidableEq, Repr

namespace StepKeyword

def text : StepKeyword → Text
  | given => "Given"
  | action => "When"
  | outcome => "Then"
  | and => "And"
  | but => "But"
  | or => "Or"
  | star => "*"

def all : List StepKeyword := [given, action, outcome, and, but, or, star]

def read? (t : Text) : Option (StepKeyword × Text) :=
  all.findSome? fun k => (Text.after? k.text t).map fun rest => (k, rest)

end StepKeyword

/-- A line that starts with a step keyword. The text is missing if nothing at all follows the
keyword. -/
structure StepLine where
  keyword : StepKeyword
  text : Option Text
deriving DecidableEq, Repr

inductive ScenarioKind
  | background
  | scenario
  | outline
  | template
deriving DecidableEq, Repr

namespace ScenarioKind

def text : ScenarioKind → Text
  | background => "Background"
  | scenario => "Scenario"
  | outline => "Scenario Outline"
  | template => "Scenario Template"

def all : List ScenarioKind := [background, scenario, outline, template]

def ofText? (t : Text) : Option ScenarioKind := all.find? fun k => k.text = t

def isOutline : ScenarioKind → Bool
  | outline | template => true
  | background | scenario => false

end ScenarioKind

namespace Line

open Text

/-! ## Comments and tags -/

def afterComment? (line : Text) : Option Text := after? "#" (trimStart line)

def isComment (line : Text) : Bool := (afterComment? line).isSome

/-- The text after the mark of a tag and its first character. -/
def afterTag? (line : Text) : Option Text :=
  match trimStart line with
  | '@' :: c :: rest => if isBlank c then none else some rest
  | _ => none

def startsWithTag (line : Text) : Bool := (afterTag? line).isSome

/-- The text after the last tag mark in a comment. -/
def afterCommentTag? (line : Text) : Option Text := do
  let rest ← afterComment? line
  let body := rest.takeWhile (· != '\n')
  let after ← afterLast? '@' body
  return after ++ rest.drop body.length

/-- The text after a step keyword in a comment and the character that ends it. -/
def afterCommentedStep? (line : Text) : Option Text := do
  let rest ← afterComment? line
  let (_, rest) ← StepKeyword.read? (trimStart rest)
  match rest with
  | [] => some []
  | c :: rest => if isBlank c then some rest else none

def isCommentedStep (line : Text) : Bool := (afterCommentedStep? line).isSome

/-- Whether the line is a tag line that is commented out. A commented step that mentions `@` is
none. -/
def isCommentedTags (line : Text) : Bool := (afterCommentTag? line).isSome && !isCommentedStep line

def isTags (line : Text) : Bool := startsWithTag line || isCommentedTags line

/-- The tags of a line. A tag goes from its `@` to the next blank. -/
def tags (line : Text) : List Text :=
  (words line).filterMap fun w =>
    match w.dropWhile (· != '@') with
    | '@' :: c :: t => some ('@' :: c :: t)
    | _ => none

/-! ## Titles -/

def titleName? (rest : Text) : Option Text :=
  let name := trim rest
  if hasLineFeed name then none else some name

def featureTitle? (line : Text) : Option Text :=
  (after? "Feature:" (trimStart line)).bind titleName?

def scenarioTitle? (line : Text) : Option (ScenarioKind × Text) := do
  let (kind, rest) ← ScenarioKind.all.findSome? fun k =>
    (after? (k.text ++ [':']) (trimStart line)).map fun rest => (k, rest)
  let name ← titleName? rest
  return (kind, name)

def afterExamples? (line : Text) : Option Text :=
  (afterAny? ["Examples:", "Scenarios:"] (trimStart line)).map Prod.snd

def isExamples (line : Text) : Bool := (afterExamples? line).isSome

/-! ## Steps, rows and fences -/

def step? (line : Text) : Option StepLine := do
  let (keyword, rest) ← StepKeyword.read? (trimStart line)
  match rest with
  | [] => some ⟨keyword, none⟩
  | c :: _ =>
    let text := trim rest
    if isBlank c && !hasLineFeed text then some ⟨keyword, some text⟩ else none

def splitStep? (line : Text) : Option (StepKeyword × Text) :=
  (step? line).map fun s => (s.keyword, s.text.getD [])

/-- What a step says: the text after the keyword, or the whole line if it has none. -/
def stepText (line : Text) : Text :=
  match splitStep? line with
  | some (_, text) => text
  | none => trim line

def isStep (line : Text) : Bool := (splitStep? line).any fun s => !s.2.isEmpty

/-- Whether the line is a table row: it starts and ends with a bar, not the same one. -/
def isRow (line : Text) : Bool :=
  match trimStart line with
  | '|' :: rest => match (trimEnd rest).reverse with
    | '|' :: inner => !hasLineFeed inner
    | _ => false
  | _ => false

/-- The cells of a table row, trimmed. Empty cells are kept, so that columns line up. -/
def cells (row : Text) : List Text :=
  let body := trim row
  let body := (after? "|" body).getD body
  let body := (before? "|" body).getD body
  (split '|' body).map trim

def afterFence? (line : Text) : Option Text :=
  (afterAny? ["\"\"\"", "\x60\x60\x60"] (trimStart line)).map Prod.snd

def isFence (line : Text) : Bool := (afterFence? line).isSome

/-! ## Dates -/

def shortNumber? (t : Text) : Option Text :=
  let n := (t.takeWhile isDigit).length
  if n = 1 ∨ n = 2 then some (t.drop n) else none

def endsWord (t : Text) : Bool := !(t.head?.any isWordChar)

/-- A date such as `12/31/1999` or `1/2/99` at the start of a text, and what follows it. -/
def afterDate? (t : Text) : Option Text := do
  let t ← (shortNumber? t).bind (after? "/")
  let t ← (shortNumber? t).bind (after? "/")
  let n := (t.takeWhile isDigit).length
  if n ≥ 4 ∧ endsWord (t.drop 4) then some (t.drop 4)
  else if n ≥ 2 ∧ endsWord (t.drop 2) then some (t.drop 2)
  else none

/-- The dates of a text. A date does not start inside a word. -/
def dates (t : Text) : List Text :=
  findAll (fun before t =>
    if before.any isWordChar then none else (afterDate? t).map fun rest => upTo rest t) t

def hasDate (line : Text) : Bool := !(dates line).isEmpty

end Line

end SuiteAudit
