import SuiteAudit.Path

/-!
# Locations

Where a node of a suite is declared and where a step is called.
-/

namespace SuiteAudit

/-- A line of a file. Lines are counted from one. -/
structure Location where
  file : SourcePath
  line : Nat
deriving DecidableEq, Repr

namespace Location

def atLine (l : Location) (line : Nat) : Location := { l with line }

def order (a b : Location) : Ordering := (a.file.order b.file).then (compare a.line b.line)

def text (l : Location) : Text := l.file.text ++ ':' :: Text.ofNat l.line

end Location

/-- Where a step is called: a line, and for a step of an outline the number of the example. -/
structure StepLocation where
  location : Location
  row : Option Nat := none
deriving DecidableEq, Repr

namespace StepLocation

/-- The order of example numbers, with no example first. -/
def orderRow : Option Nat → Option Nat → Ordering
  | none, none => .eq
  | none, some _ => .lt
  | some _, none => .gt
  | some m, some n => compare m n

def order (a b : StepLocation) : Ordering :=
  (a.location.order b.location).then (orderRow a.row b.row)

def text (l : StepLocation) : Text :=
  match l.row with
  | some n => l.location.text ++ "(Example ".toList ++ Text.ofNat n ++ [')']
  | none => l.location.text

end StepLocation

end SuiteAudit
