import SuiteAudit.Feature.Outline
import SuiteAudit.Order
import SuiteAudit.StepFile.Definition

/-!
# The universe of steps

All steps that a suite calls, by where they are called: steps of scenarios, steps of outlines once
for each example, and nested calls. A definition is dead if none of them reaches it.
-/

namespace SuiteAudit

@[ext]
structure Universe where
  calls : Sorted StepLocation Text
  ordered : Sorted.Ordered StepLocation.order calls
deriving DecidableEq, Repr

namespace Universe

instance : EmptyCollection Universe := ⟨[], Sorted.ordered_nil⟩

-- A universe may be given as the empty list, and taken for the list of its calls.
instance {α : Type} : CoeDep (List α) [] Universe := ⟨∅⟩

instance : Coe Universe (Sorted StepLocation Text) := ⟨calls⟩

instance : Membership (StepLocation × Text) Universe := ⟨fun u e => e ∈ u.calls⟩

def length (u : Universe) : Nat := u.calls.length

def isEmpty (u : Universe) : Bool := u.calls.isEmpty

def stepsOf (s : Scenario) : List (StepLocation × Text) :=
  if s.isOutline then s.expansion
  else s.liveSteps.map fun (step, line) => (⟨s.card.location.atLine line, none⟩, step)

def nestedOf (d : StepDefinition) : List (StepLocation × Text) :=
  d.nested.map fun (l, t) => (⟨l, none⟩, t)

def callsOf (features : List Feature) (definitions : List StepDefinition) :
    List (StepLocation × Text) :=
  features.flatMap (fun f => f.blocks.flatMap stepsOf) ++ definitions.flatMap nestedOf

def build (features : List Feature) (definitions : List StepDefinition) : Universe :=
  ⟨Sorted.insertAll StepLocation.order (callsOf features definitions) [],
    Sorted.insertAll_ordered _ Sorted.ordered_nil⟩

def step? (u : Universe) (l : StepLocation) : Option Text :=
  Sorted.get? StepLocation.order l u.calls

/-- The steps with interpolations, with the patterns of the definitions that they may reach. -/
def interpolated (u : Universe) : List ((StepLocation × Text) × Pattern) :=
  u.calls.filterMap fun e => (reachPattern? e.2).map fun p => (e, p)

end Universe

namespace StepDefinition

def addCalls (d : StepDefinition) (calls : List (StepLocation × Text)) : StepDefinition :=
  calls.foldl (fun d (l, t) => d.addCall l t) d

/-- The definition with the calls of all steps that it matches. If no call is known then, steps
with interpolations count that may reach it. -/
def catalog (u : Universe) (d : StepDefinition) : StepDefinition :=
  let d := d.addCalls (u.calls.filter fun e => d.isMatch e.2)
  if d.isDead then
    let source := unanchored d.source
    d.addCalls ((u.interpolated.filter fun e => e.2.isMatch source).map Prod.fst)
  else d

end StepDefinition

/-! ## Dead steps -/

structure DeadSteps where
  byFile : Sorted SourcePath (List Text) := []
  total : Nat := 0
deriving DecidableEq, Repr

namespace DeadSteps

def entry (d : StepDefinition) : Text :=
  Text.ofNat d.card.location.line ++ ": /".toList ++ d.source ++ ['/']

/-- The dead ones among the definitions, those of a file by their lines. -/
def collect (definitions : List StepDefinition) : DeadSteps :=
  let dead := (definitions.filter StepDefinition.isDead).mergeSort fun a b =>
    a.card.location.order b.card.location != .gt
  { byFile := dead.foldl (fun m d =>
      Sorted.alter SourcePath.order d.card.location.file (fun es => es.getD [] ++ [entry d]) m) []
    total := dead.length }

def isEmpty (d : DeadSteps) : Bool := d.total == 0

end DeadSteps

end SuiteAudit
