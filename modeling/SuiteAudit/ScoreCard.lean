import SuiteAudit.Histogram
import SuiteAudit.Location

/-!
# Score cards

Every node of a suite that rules can judge carries a card: where the node is, its score, and how
often which rule fired. Score and histogram change only together.
-/

namespace SuiteAudit

inductive NodeKind
  | feature
  | background
  | scenario
  | stepDefinition
  | hook
deriving DecidableEq, Repr

namespace NodeKind

def text : NodeKind → Text
  | feature => "Feature"
  | background => "Background"
  | scenario => "Scenario"
  | stepDefinition => "StepDefinition"
  | hook => "Hook"

def all : List NodeKind := [feature, background, scenario, stepDefinition, hook]

def ofText? (t : Text) : Option NodeKind := all.find? fun k => k.text = t

end NodeKind

structure ScoreCard where
  location : Location
  score : Nat := 0
  violations : Histogram := {}
deriving DecidableEq, Repr

namespace ScoreCard

def store (c : ScoreCard) (phrase : Text) (weight : Nat) : ScoreCard :=
  { c with score := c.score + weight, violations := c.violations.increment phrase }

def isGood (c : ScoreCard) (threshold : Nat) : Bool := c.score ≤ threshold

def problemRatio (c : ScoreCard) (threshold : Nat) : Float :=
  if threshold = 0 then (if c.score = 0 then 0.0 else 1.0 / 0.0)
  else Float.ofNat c.score / Float.ofNat threshold

def fits (c : ScoreCard) : Bool := c.score ≤ maxScore

end ScoreCard

end SuiteAudit
