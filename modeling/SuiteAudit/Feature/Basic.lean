import SuiteAudit.Feature.Line
import SuiteAudit.ScoreCard
import SuiteAudit.SortedMap

/-!
# Features

What a feature file says: a feature with its tags, perhaps a background, and scenarios with steps,
tables and examples.
-/

namespace SuiteAudit

structure Scenario where
  card : ScoreCard
  name : Text := []
  tags : List Text := []
  kind : ScenarioKind
  /-- The step lines, comments among them. -/
  steps : List Text := []
  stepLines : List Nat := []
  /-- The table rows below a step, by the text of the step. -/
  tables : Sorted Text (List Text) := []
  /-- The rows and comments of the example tables. -/
  examples : List Text := []
deriving DecidableEq, Repr

structure Feature where
  card : ScoreCard
  name : Text := []
  tags : List Text := []
  background : Option Scenario := none
  scenarios : List Scenario := []
deriving DecidableEq, Repr

namespace Scenario

def nodeKind (s : Scenario) : NodeKind :=
  if s.kind = .background then .background else .scenario

def isOutline (s : Scenario) : Bool := s.kind.isOutline

def liveSteps (s : Scenario) : List (Text × Nat) :=
  (s.steps.zip s.stepLines).filter fun e => !Line.isComment e.1

def commentedExamples (s : Scenario) : Nat := s.examples.countP Line.isComment

end Scenario

namespace Feature

def blocks (f : Feature) : List Scenario := f.background.toList ++ f.scenarios

def totalScore (f : Feature) : Nat := f.blocks.foldr (fun s n => s.card.score + n) f.card.score

end Feature

end SuiteAudit
