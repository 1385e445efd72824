import SuiteAudit.StepFile.Declaration

/-!
# Blocks

A step file is cut at its declarations. The block of a declaration goes to the last line before the
next declaration that can end it, so that whatever is nested in a body stays in it.
-/

namespace SuiteAudit

/-- What a line declares. A line that could be either declares a step definition. -/
inductive Declaration
  | step (d : StepDeclaration)
  | hook (d : HookDeclaration)
deriving DecidableEq, Repr

namespace Declaration

def read? (line : Text) : Option Declaration :=
  ((StepDeclaration.read? line).map step).or ((HookDeclaration.read? line).map hook)

def block : Declaration → BlockStart
  | step d => d.block
  | hook d => d.block

end Declaration

structure Block where
  declaration : Declaration
  line : Nat
  body : List Text
deriving DecidableEq, Repr

namespace Block

open Text

def terminator : Opener → Text
  | .word => "end"
  | .brace => "\x7d"

/-- Whether a trimmed line ends a block, perhaps with a closing parenthesis after it. -/
def isTerminator (opener : Opener) (line : Text) : Bool :=
  line = terminator opener || (before? ")" line).map trimEnd = some (terminator opener)

/-- What remains of the lines from the last to the first that satisfies the test, without it. -/
def beforeLast? (test : Text → Bool) (lines : List Text) : Option (List Text) :=
  match lines.reverse.dropWhile fun line => !test line with
  | [] => none
  | _ :: rest => some rest.reverse

/-- The body among the lines below a declaration: all before the last terminator, or without one all
but the blank lines at the end. -/
def bodyOf (opener : Opener) (lines : List Text) : List Text :=
  let lines := lines.map trim
  match beforeLast? (isTerminator opener) lines with
  | some body => body
  | none => (lines.reverse.dropWhile List.isEmpty).reverse

/-- The body of a declaration: its code if the block ends on the same line, else what the lines
below it hold. -/
def bodyBelow (start : BlockStart) (below : List Text) : List Text :=
  if start.closed then (start.code.map trim).toList else bodyOf start.opener below

def split (n : Nat) : List Text → List Block
  | [] => []
  | line :: rest =>
    match Declaration.read? line with
    | some d =>
      let below := rest.takeWhile fun line => (Declaration.read? line).isNone
      ⟨d, n, bodyBelow d.block below⟩ :: split (n + 1) rest
    | none => split (n + 1) rest

def isInline (b : Block) : Bool := b.declaration.block.closed

def ofText (t : Text) : List Block := split 1 (lines t)

end Block

end SuiteAudit
