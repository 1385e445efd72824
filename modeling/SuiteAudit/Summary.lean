import SuiteAudit.Feature.Basic
import SuiteAudit.StepFile.Hook

/-!
# Summaries

Scores and phrases added up for each category of nodes and for the suite.
-/

namespace SuiteAudit

structure Thresholds where
  feature : Nat := 300
  /-- Also for backgrounds. -/
  scenario : Nat := 300
  stepDefinition : Nat := 300
  hook : Nat := 300
  project : Nat := 1000
deriving DecidableEq, Repr

def Thresholds.forKind (t : Thresholds) : NodeKind → Nat
  | .feature => t.feature
  | .background | .scenario => t.scenario
  | .stepDefinition => t.stepDefinition
  | .hook => t.hook

structure Extreme where
  score : Nat
  location : Location
deriving DecidableEq, Repr

def ScoreCard.extreme (c : ScoreCard) : Extreme := ⟨c.score, c.location⟩

structure CategorySummary where
  total : Nat := 0
  totalScore : Nat := 0
  /-- The least score and the first node that has it. -/
  least : Option Extreme := none
  /-- The greatest score and the first node that has it. -/
  greatest : Option Extreme := none
  threshold : Nat
  good : Nat := 0
  bad : Nat := 0
  improvements : Histogram := {}
deriving DecidableEq, Repr

namespace CategorySummary

/-- The best score after one more card, which has to beat the best one so far. -/
def keep (beats : Nat → Nat → Prop) [DecidableRel beats] (best : Option Extreme) (c : ScoreCard) :
    Option Extreme :=
  match best with
  | some e => some (if beats c.score e.score then c.extreme else e)
  | none => some c.extreme

def add (s : CategorySummary) (c : ScoreCard) : CategorySummary :=
  { s with
    total := s.total + 1
    totalScore := s.totalScore + c.score
    least := keep (· < ·) s.least c
    greatest := keep (· > ·) s.greatest c
    good := if c.isGood s.threshold then s.good + 1 else s.good
    bad := if c.isGood s.threshold then s.bad else s.bad + 1
    improvements := s.improvements.merge c.violations }

def assess (threshold : Nat) (cards : List ScoreCard) : CategorySummary :=
  cards.foldl add { threshold }

def minimum (s : CategorySummary) : Nat := (s.least.map Extreme.score).getD 0

def maximum (s : CategorySummary) : Nat := (s.greatest.map Extreme.score).getD 0

/-- The mean score in hundredths, rounded. The mean is taken in binary floating point first. -/
def averageHundredths (s : CategorySummary) : Nat :=
  if s.total = 0 then 0
  else (Float.ofNat s.totalScore / Float.ofNat s.total * 100.0).round.toUInt64.toNat

def average (s : CategorySummary) : Float := Float.ofNat s.averageHundredths / 100.0

def fits (s : CategorySummary) : Bool := s.totalScore ≤ maxScore

end CategorySummary

structure SuiteSummary where
  features : CategorySummary
  scenarios : CategorySummary
  definitions : CategorySummary
  hooks : CategorySummary
  thresholds : Thresholds
deriving DecidableEq, Repr

namespace SuiteSummary

def assess (features : List Feature) (definitions : List StepDefinition) (hooks : List Hook)
    (thresholds : Thresholds) : SuiteSummary :=
  { features := .assess (thresholds.forKind .feature) (features.map Feature.card)
    scenarios := .assess (thresholds.forKind .scenario)
      (features.flatMap fun f => f.blocks.map Scenario.card)
    definitions := .assess (thresholds.forKind .stepDefinition) (definitions.map StepDefinition.card)
    hooks := .assess (thresholds.forKind .hook) (hooks.map Hook.card)
    thresholds }

def categories (s : SuiteSummary) : List CategorySummary :=
  [s.features, s.scenarios, s.definitions, s.hooks]

def totalScore (s : SuiteSummary) : Nat := s.categories.foldr (fun c n => c.totalScore + n) 0

def improvements (s : SuiteSummary) : Histogram :=
  Histogram.ofList
    (s.categories.foldl (fun h c => h.merge c.improvements) ({} : Histogram)).byCount

def isGood (s : SuiteSummary) : Bool := s.totalScore ≤ s.thresholds.project

def fits (s : SuiteSummary) : Bool := s.totalScore ≤ maxScore

end SuiteSummary

end SuiteAudit
