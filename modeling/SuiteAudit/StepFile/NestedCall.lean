import SuiteAudit.StepFile.Interpolation
import SuiteAudit.StepFile.Quoted

/-!
# Nested step calls

The body of a step definition can call other steps: `step "..."` calls one, and a literal
`steps %Q{ ... }` over several lines calls every step in it. Each body line has a class of its own,
and the only thing to remember from line to line is whether a literal is open.

Interpolations are masked while a line is classified, so that their braces and quotes are not taken
for those of a literal, and are put back in the text of the call.
-/

namespace SuiteAudit

/-! ## Masks -/

structure Masked where
  text : Text
  segments : List Text
deriving DecidableEq, Repr

namespace Masked

/-- The character around the number of a token. -/
def mark : Char := '\x1a'

def token (n : Nat) : Text := mark :: Text.ofNat n ++ [mark]

def textOf (n : Nat) : List Piece → Text
  | [] => []
  | .plain t :: ps => t ++ textOf n ps
  | .interpolation _ :: ps => token n ++ textOf (n + 1) ps

def ofLine (line : Text) : Masked :=
  let pieces := Piece.split line
  ⟨textOf 0 pieces, (pieces.filter Piece.isInterpolation).map Piece.text⟩

def token? : Text → Option Text
  | [] => none
  | c :: t =>
    if c = mark then
      let digits := t.takeWhile Text.isDigit
      if !digits.isEmpty && (t.drop digits.length).head? = some mark then some digits else none
    else none

def replaceTokens (f : Text → Text) (t : Text) : Text :=
  Text.replaceEach (fun t => (token? t).map fun digits => (f digits, digits.length + 2)) t

/-- The segment whose number has the given digits; nothing if there is no such segment. -/
def segment (m : Masked) (digits : Text) : Text :=
  ((Text.toNat? digits).bind fun n => m.segments[n]?).getD []

/-- The text of a call with its interpolations put back and without backslashes. There is none if
nothing but interpolations is called. -/
def finish (m : Masked) (t : Text) : Option Text :=
  if Text.allBlank (replaceTokens (fun _ => []) t) then none
  else some ((replaceTokens m.segment t).filter (· != '\\'))

end Masked

/-! ## Literals -/

def dropClosingParen (t : Text) : Text :=
  let t := Text.trimEnd t
  ((Text.before? ")" t).map Text.trimEnd).getD t

def afterLastMark? : Text → Option Text
  | [] => none
  | '#' :: '\x7b' :: t => (afterLastMark? t).orElse fun _ => some t
  | _ :: t => afterLastMark? t

/-- Whether a brace at the end of a line closes a literal and not the last interpolation on it. -/
def closesLiteral (line : Text) : Bool :=
  let body := dropClosingParen line
  body.getLast? = some '\x7d' &&
    match afterLastMark? body with
    | none => true
    | some t => match Piece.balanced? 1 t with
      | some (_, rest) => !rest.isEmpty
      | none => true

inductive CallLine
  | call (t : Text)
  /-- The start of a literal, perhaps with its first step. -/
  | opening (t : Option Text)
  /-- A step, if a literal is open. -/
  | inner (t : Text)
  /-- The end of a literal, perhaps with its last step. -/
  | closing (t : Option Text)
  | other
deriving DecidableEq, Repr

namespace CallLine

open Text

/-- What follows `step` or `steps`, and whether it was the singular, without an opening parenthesis
and the blanks around it. -/
def afterCall? (t : Text) : Option (Bool × Text) := do
  let rest ← after? "step" t
  let (singular, rest) := match rest with
    | 's' :: rest => (false, rest)
    | rest => (true, rest)
  let rest := trimStart rest
  return (singular, trimStart ((after? "(" rest).getD rest))

def withoutKeyword (t : Text) : Text :=
  match StepKeyword.read? t with
  | some (_, c :: rest) => if isBlank c then trimStart rest else t
  | _ => t

/-- Whether a call can end with `t` after its string: further arguments, a closing parenthesis. -/
def endsCall (t : Text) : Bool :=
  match trimStart t with
  | ',' :: rest => !hasLineFeed (trimEnd rest)
  | ')' :: rest => allBlank rest
  | [] => true
  | _ => false

def string? (t : Text) : Option (Char × Text) := do
  let (_, rest) ← afterCall? t
  match rest with
  | q :: rest =>
    if q = '"' ∨ q = '\'' then
      let (content, rest) ← Quoted.escaped? q rest
      if endsCall rest then some (q, withoutKeyword content) else none
    else none
  | [] => none

/-- Whether the call that opens a literal is the singular one, and what follows the opening. -/
def literalOpening? (t : Text) : Option (Bool × Text) := do
  let (singular, rest) ← afterCall? t
  let rest ← after? "%" rest
  let rest := ((afterAny? ["q", "Q"] rest).map Prod.snd).getD rest
  let rest ← after? "\x7b" rest
  let rest := trim rest
  if hasLineFeed rest then none else some (singular, rest)

def lastStep? (t : Text) : Option Text := do
  let (_, rest) ← StepKeyword.read? t
  let body ← before? "\x7d" (dropClosingParen rest)
  let text := trim body
  if rest.head?.any isBlank && !hasLineFeed text then some text else none

def isClosing (t : Text) : Bool :=
  match t with
  | '\x7d' :: rest => (dropClosingParen rest).isEmpty
  | _ => false

def keywordText? (t : Text) : Option Text := do
  let (_, rest) ← StepKeyword.read? t
  let text := trim rest
  if rest.head?.any isBlank && !hasLineFeed text then some text else none

def stepText? (t : Text) : Option Text := (keywordText? t).filter fun text => !text.isEmpty

def withoutClosing (t : Text) : Text :=
  let t := dropClosingParen t
  ((before? "\x7d" t).map trimEnd).getD t

def ofText? (m : Masked) (make : Text → CallLine) (t : Option Text) : CallLine :=
  ((t.bind m.finish).map make).getD other

/-- The class of a line that opens a literal: a complete call if the literal ends on the line. -/
def ofOpening (line : Text) (m : Masked) (singular : Bool) (rest : Text) : CallLine :=
  if rest.isEmpty then opening none
  else if closesLiteral line then
    let inner := withoutClosing rest
    let text := (stepText? inner).or (if singular && !inner.isEmpty then some inner else none)
    ofText? m call text
  else opening ((stepText? rest).bind m.finish)

/-- The class of a line. The first that fits is taken: a call in quotes, the opening of a literal,
its closing, a step. -/
def ofLine (raw : Text) : CallLine :=
  let line := trim raw
  if line.isEmpty || Line.isComment line then other
  else
    let m := Masked.ofLine line
    match string? m.text with
    | some (_, content) => ofText? m call (some content)
    | none => match literalOpening? m.text with
      | some (singular, rest) => ofOpening line m singular rest
      | none => match lastStep? m.text with
        | some text => closing (m.finish text)
        | none =>
          if isClosing m.text then closing none
          else ofText? m inner (stepText? m.text)

def step (inLiteral : Bool) : CallLine → Bool × Option Text
  | call t => (inLiteral, some t)
  | opening t => (true, t)
  | inner t => (inLiteral, if inLiteral then some t else none)
  | closing t => (false, if inLiteral then t else none)
  | other => (inLiteral, none)

def callsFrom (inLiteral : Bool) (n : Nat) : List Text → List (Nat × Text)
  | [] => []
  | line :: body =>
    let (inLiteral, found) := step inLiteral (ofLine line)
    (found.map fun t => (n, t)).toList ++ callsFrom inLiteral (n + 1) body

end CallLine

/-- The nested calls of a body, each with the number of its line in the body from one on. -/
def nestedCalls (body : List Text) : List (Nat × Text) := CallLine.callsFrom false 1 body

end SuiteAudit
