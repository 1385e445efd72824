import SuiteAudit.Feature.Line
import SuiteAudit.StepFile.Quoted

/-!
# Declarations

The line that declares a step definition or a hook: what it matches or filters, how its block opens,
its parameters, and whether a brace block ends on the same line.
-/

namespace SuiteAudit

inductive Opener
  | word
  | brace
deriving DecidableEq, Repr

namespace Opener

def text : Opener → Text
  | word => "do"
  | brace => "\x7b"

def read? (t : Text) : Option (Opener × Text) :=
  [word, brace].findSome? fun o => (Text.after? o.text t).map fun rest => (o, rest)

end Opener

/-- What follows the opener on a declaration line: parameters between bars, and the code of a block
that closes on the same line. The code is missing if there is nothing between the braces. -/
structure BlockStart where
  opener : Opener
  parameters : Option Text
  closed : Bool
  code : Option Text
deriving DecidableEq, Repr

namespace BlockStart

open Text

def isTail (t : Text) : Bool :=
  match trimStart t with
  | [] => true
  | '#' :: rest => !hasLineFeed rest
  | _ => false

def isClosingTail (t : Text) : Bool :=
  match trimStart t with
  | ')' :: rest => isTail rest
  | _ => isTail t

/-- The text before the first closing brace that can end a block and its line. -/
def inlineCode? : Text → Option Text
  | [] => none
  | c :: t =>
    if c = '\x7d' && isClosingTail t then some []
    else (inlineCode? t).map (c :: ·)

/-- The code and the end of a block on its declaration line, or `(false, none)` if the block goes on
after the line. -/
def readTail? (t : Text) : Option (Bool × Option Text) :=
  match trimStart t with
  | [] => some (false, none)
  | '#' :: rest => if hasLineFeed rest then none else some (false, none)
  | '\x7d' :: rest => if isClosingTail rest then some (true, none) else none
  | c :: rest => do
    let code := trimEnd (c :: (← inlineCode? rest))
    if hasLineFeed code then none else some (true, some code)

def parameters? : Text → Option (Text × Text)
  | '|' :: t => cut? '|' t
  | _ => none

/-- The start of a block: the opener and the rest of the line. Bars are read as parameters if what
follows them can end the line, else as code. -/
def read? (t : Text) : Option BlockStart := do
  let (opener, rest) ← Opener.read? t
  let rest := trimStart rest
  let withParameters := do
    let (parameters, rest) ← parameters? rest
    let (closed, code) ← readTail? rest
    return ⟨opener, some parameters, closed, code⟩
  match withParameters with
  | some block => some block
  | none => do
    let (closed, code) ← readTail? rest
    return ⟨opener, none, closed, code⟩

end BlockStart

/-! ## Step definitions -/

inductive StepSource
  | regex (source flags : Text)
  /-- An expression in the quotes `q`, escapes left as they are. -/
  | quoted (q : Char) (source : Text)
deriving DecidableEq, Repr

structure StepDeclaration where
  keyword : Text
  source : StepSource
  block : BlockStart
deriving DecidableEq, Repr

namespace StepDeclaration

open Text

def keywords : List Text := ["Given", "When", "Then", "And", "But", "Or", "Transform", "*"]

def blockAfter? (t : Text) : Option BlockStart :=
  let t := trimStart t
  BlockStart.read? (trimStart ((after? ")" t).getD t))

def isFlag (c : Char) : Bool := c = 'i' || c = 'm' || c = 'x' || c = 'o'

/-- A regular expression up to the last slash after which the line can go on as a declaration, its
flags, and the block. The expression holds no line feed. -/
def regexSource? : Text → Option (Text × Text × BlockStart)
  | [] => none
  | c :: t =>
    match if c = '\n' then none else regexSource? t with
    | some (source, rest) => some (c :: source, rest)
    | none =>
      if c = '/' then
        let flags := t.takeWhile isFlag
        (blockAfter? (t.drop flags.length)).map fun block => ([], flags, block)
      else none

def source? : Text → Option (StepSource × BlockStart)
  | '/' :: t => (regexSource? t).map fun (source, flags, block) => (.regex source flags, block)
  | q :: t =>
    if q = '"' ∨ q = '\'' then do
      let (content, rest) ← Quoted.escaped? q t
      let block ← blockAfter? rest
      return (.quoted q content, block)
    else none
  | [] => none

def read? (line : Text) : Option StepDeclaration := do
  let (keyword, rest) ← afterAny? keywords (trimStart line)
  let rest := trimStart rest
  let (source, block) ← source? (trimStart ((after? "(" rest).getD rest))
  return ⟨keyword, source, block⟩

end StepDeclaration

/-! ## Hooks -/

inductive HookKind
  | afterConfiguration
  | before
  | after
  | afterStep
  | around
  | atExit
deriving DecidableEq, Repr

namespace HookKind

def text : HookKind → Text
  | afterConfiguration => "AfterConfiguration"
  | before => "Before"
  | after => "After"
  | afterStep => "AfterStep"
  | around => "Around"
  | atExit => "at_exit"

/-- All kinds, those before whose word begins with the word of another one. -/
def all : List HookKind := [afterConfiguration, afterStep, before, after, around, atExit]

def ofText? (t : Text) : Option HookKind := all.find? fun k => k.text = t

end HookKind

inductive HookFilter
  | none
  | parenthesized (t : Text)
  | bare (t : Text)
deriving DecidableEq, Repr

structure HookDeclaration where
  kind : HookKind
  filter : HookFilter
  block : BlockStart
deriving DecidableEq, Repr

namespace HookDeclaration

open Text

/-- What follows a list of strings with commas between them, reading at most `fuel` of them. -/
def afterStrings? : (fuel : Nat) → Text → Option Text
  | 0, _ => none
  | fuel + 1, t => do
    let (_, rest) ← Quoted.plain? t
    match trimStart rest with
    | ',' :: more => some ((afterStrings? fuel (trimStart more)).getD rest)
    | _ => some rest

def readFilter (t : Text) : HookFilter × Text :=
  let body := trimStart t
  match body with
  | '(' :: inner => match cut? ')' inner with
    | some (tags, rest) => (.parenthesized tags, rest)
    | none => (.none, t)
  | _ =>
    match if body.length < t.length then afterStrings? body.length body else none with
    | some rest => (.bare (body.take (body.length - rest.length)), rest)
    | none => (.none, t)

def read? (line : Text) : Option HookDeclaration := do
  let body := trimStart line
  let (kind, rest) ← HookKind.all.findSome? fun k => (after? k.text body).map fun rest => (k, rest)
  let (filter, rest) := readFilter rest
  let block ← BlockStart.read? (trimStart rest)
  return ⟨kind, filter, block⟩

end HookDeclaration

end SuiteAudit
