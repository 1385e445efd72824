import SuiteAudit.Text.Basic

/-!
# Paths

A path is kept as it was written and compared by what it names: repeated slashes, slashes at the end
and single dots inside a path make no difference.
-/

namespace SuiteAudit

inductive Component
  | root
  /-- A single dot at the start of a path. -/
  | here
  | up
  | name (n : Text)
deriving DecidableEq, Repr

namespace Component

def rank : Component → Nat
  | root => 0
  | here => 1
  | up => 2
  | name _ => 3

def order : Component → Component → Ordering
  | name m, name n => Text.order m n
  | a, b => compare a.rank b.rank

/-- The component that a piece between slashes stands for, if it stands for any. -/
def ofPiece? (piece : Text) : Option Component :=
  if piece.isEmpty || piece = ['.'] then none
  else if piece = ['.', '.'] then some up
  else some (name piece)

end Component

structure SourcePath where
  text : Text
deriving DecidableEq, Repr

namespace SourcePath

/-- The start of a path, a slash or a dot before a slash or the end, and the rest of it. -/
def cutStart (p : SourcePath) : Option Component × Text :=
  match p.text with
  | '/' :: t => (some .root, t)
  | ['.'] => (some .here, [])
  | '.' :: '/' :: t => (some .here, '/' :: t)
  | t => (none, t)

def components (p : SourcePath) : List Component :=
  let (start, rest) := p.cutStart
  start.toList ++ (Text.split '/' rest).filterMap Component.ofPiece?

def orderComponents : List Component → List Component → Ordering
  | [], [] => .eq
  | [], _ :: _ => .lt
  | _ :: _, [] => .gt
  | a :: as, b :: bs => (a.order b).then (orderComponents as bs)

def order (p q : SourcePath) : Ordering :=
  if p = q then .eq else orderComponents p.components q.components

def isAbsolute (p : SourcePath) : Bool := p.text.head? = some '/'

def join (p q : SourcePath) : SourcePath :=
  if q.isAbsolute || p.text.isEmpty then q
  else if p.text.getLast? = some '/' then ⟨p.text ++ q.text⟩
  else ⟨p.text ++ '/' :: q.text⟩

/-- The pieces between slashes without those at the end that stand for no component. -/
def dropTrailing (pieces : List Text) : List Text :=
  (pieces.reverse.dropWhile fun p => (Component.ofPiece? p).isNone).reverse

/-- The path without its last component, if there is one to take away. -/
def parent? (p : SourcePath) : Option SourcePath :=
  let (start, rest) := p.cutStart
  let startText : Text := match start with
    | some .root => ['/']
    | some _ => ['.']
    | none => []
  match dropTrailing (Text.split '/' rest) with
  | [] => if start = some .here then some ⟨[]⟩ else none
  | pieces => some ⟨startText ++ Text.join ['/'] (dropTrailing pieces.dropLast)⟩

/-- The path and what remains of it as its last components are taken away one by one, at most
`count` paths in all. -/
def ancestors : (count : Nat) → SourcePath → List SourcePath
  | 0, _ => []
  | count + 1, p => p :: (p.parent?.map (ancestors count)).getD []

/-- What follows the last dot of a name, unless the name starts with that dot. -/
def extensionOf? (name : Text) : Option Text :=
  match name.reverse.dropWhile (· != '.') with
  | [] | ['.'] => none
  | _ => Text.afterLast? '.' name

def extension? (p : SourcePath) : Option Text :=
  match p.components.getLast? with
  | some (.name n) => extensionOf? n
  | _ => none

end SourcePath

end SuiteAudit
