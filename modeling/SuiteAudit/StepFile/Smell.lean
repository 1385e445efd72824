import SuiteAudit.Text.Property
import SuiteAudit.Text.Folding

/-!
# Smells in bodies

Lines of code that rules look for: sleeping, printing, pending and rescuing, comments that say what
is still to do, and patterns that match every step. A function whose name ends in `?` gives the text
after what was looked for.
-/

namespace SuiteAudit.Smell

open Text

def atWordEnd (t : Text) : Bool := !(t.head?.any isWordChar)

def afterWord? (word line : Text) : Option Text := (after? word line).filter atWordEnd

def afterPending? (line : Text) : Option Text := afterWord? "pending" line

def afterBegin? (line : Text) : Option Text := afterWord? "begin" line

def afterRescue? (line : Text) : Option Text := afterWord? "rescue" line

def afterPrinting? (line : Text) : Option Text :=
  ["puts", "print", "pp", "p"].findSome? fun (command : String) =>
    match after? command line with
    | some [] => some []
    | some (c :: rest) => if isBlank c || c = '(' then some rest else none
    | none => none

def isPrinting (line : Text) : Bool := (afterPrinting? line).isSome

/-! ## Sleeps -/

def seconds? (t : Text) : Option (Text × Text) :=
  let whole := t.takeWhile isDigit
  let fraction : Option Text := match t.drop whole.length with
    | '.' :: rest =>
      let digits := rest.takeWhile isDigit
      if digits.isEmpty then none else some ('.' :: digits)
    | _ => none
  let number := whole ++ fraction.getD []
  if number.isEmpty then none else some (number, t.drop number.length)

def sleep? (line : Text) : Option (Text × Text) := do
  let line := (after? "Kernel." line).getD line
  let rest := trimStart (← after? "sleep" line)
  seconds? (trimStart ((after? "(" rest).getD rest))

/-- How many seconds the line sleeps, if they are written in plain digits. -/
def sleepSeconds? (line : Text) : Option Float := do
  let (number, _) ← sleep? line
  let whole := number.takeWhile (· != '.')
  let fraction := (number.drop whole.length).drop 1
  if (whole ++ fraction).all isDecimal then
    some (Float.ofScientific (digitsValue (whole ++ fraction)) true fraction.length)
  else none

/-! ## Comments that say what is still to do -/

/-- What follows a mark of work to do at the start of a text: a `#` and the word in either case. -/
def afterTodo? (t : Text) : Option Text := do
  let rest := trimStart (← after? "#" t)
  let word := rest.take 4
  if word.map Char.toLower = "todo" && word.length = 4 then
    (some (rest.drop 4)).filter atWordEnd
  else none

def todos (t : Text) : List Text :=
  findAll (fun _ t => (afterTodo? t).map fun rest => upTo rest t) t

def isTodo (line : Text) : Bool := !(todos line).isEmpty

/-! ## Patterns that match everything -/

def dropAny (heads : List Text) (t : Text) : Text := (afterAny? heads t).elim t Prod.snd

/-- Whether the source of a pattern is a repeated dot between optional anchors and parentheses. -/
def isUniversal (source : Text) : Bool :=
  let t := dropAny ["("] (dropAny ["\\A", "^"] source)
  match afterAny? [".*", ".+"] t with
  | some (_, t) => (dropAny ["$", "\\z", "\\Z"] (dropAny [")"] (dropAny ["?"] t))).isEmpty
  | none => false

end SuiteAudit.Smell
