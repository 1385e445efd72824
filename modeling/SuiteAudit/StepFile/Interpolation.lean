import SuiteAudit.StepFile.Pattern
import SuiteAudit.Feature.Line

/-!
# Interpolations

A step text in a body may hold interpolations: `#`, an opening brace, and everything up to the brace
that closes it. What they stand for is not known, so they are set apart before a text is looked at.
-/

namespace SuiteAudit

/-- A stretch of a text: plain, or an interpolation with its delimiters. -/
inductive Piece
  | plain (t : Text)
  | interpolation (t : Text)
deriving DecidableEq, Repr

namespace Piece

def text : Piece → Text
  | plain t | interpolation t => t

def isInterpolation : Piece → Bool
  | plain _ => false
  | interpolation _ => true

/-- The text up to the brace that closes the group which is `depth` braces deep, and what follows
it. -/
def balanced? : (depth : Nat) → Text → Option (Text × Text)
  | _, [] => none
  | depth, c :: t =>
    if c = '\x7b' then (balanced? (depth + 1) t).map fun (g, rest) => (c :: g, rest)
    else if c = '\x7d' then
      if depth ≤ 1 then some ([c], t)
      else (balanced? (depth - 1) t).map fun (g, rest) => (c :: g, rest)
    else (balanced? depth t).map fun (g, rest) => (c :: g, rest)

/-- The stretch at the start of a text and how many characters after the first belong to it: an
interpolation, all of the text if its mark is never closed, or a single character. -/
def first : Text → List Piece × Nat
  | '#' :: '\x7b' :: t =>
    match balanced? 1 t with
    | some (group, _) => ([interpolation ('#' :: '\x7b' :: group)], group.length + 1)
    | none => ([plain ('#' :: '\x7b' :: t)], t.length + 1)
  | t => ([plain (t.take 1)], 0)

/-- The stretch in front of others, joined with the next one if both are plain. -/
def consPlain : Piece → List Piece → List Piece
  | plain s, plain t :: ps => plain (s ++ t) :: ps
  | p, ps => p :: ps

/-- The stretches of a text. No plain stretch is empty, and no two of them are neighbours. -/
def split (t : Text) : List Piece :=
  (Text.scanFrom (fun _ => first) none 0 t).foldr consPlain []

def saysSomething (ps : List Piece) : Bool :=
  ps.any fun p => !p.isInterpolation && !Text.allBlank p.text

end Piece

/-- The pattern that the sources of the definitions reached by an interpolated step match: plain
stretches stand for themselves, interpolations for any text. There is none for a step without
interpolations. -/
def reachPattern? (step : Text) : Option Pattern :=
  let pieces := Piece.split (Line.stepText step)
  if pieces.any Piece.isInterpolation then
    let patterns := pieces.map fun
      | .plain t => Pattern.mk (Regex.escape t) (Regex.literal t)
      | .interpolation _ => ⟨".*", Regex.anyText⟩
    some ⟨'^' :: patterns.flatMap Pattern.text ++ ['$'],
      Regex.whole (Regex.seqs (patterns.map Pattern.regex))⟩
  else none

def unanchored (source : Text) : Text :=
  let body := (Text.afterAny? ["\\A", "^"] source).elim source Prod.snd
  (["\\z", "\\Z", "$"].findSome? fun (anchor : String) => Text.before? anchor body).getD body

end SuiteAudit
