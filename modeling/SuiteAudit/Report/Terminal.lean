import SuiteAudit.Report.Table
import SuiteAudit.Suite

/-!
# Reports for a terminal

A table of the categories, the worst nodes, the phrases by how often they occur, the dead steps, and
the verdict on the suite.
-/

namespace SuiteAudit

/-! ## Ink -/

inductive Ink
  | bold
  | red
  | green
  | yellow
  | blue
deriving DecidableEq, Repr

def Ink.code : Ink → Nat
  | bold => 1
  | red => 31
  | green => 32
  | yellow => 33
  | blue => 34

def paint (colours : Bool) (inks : List Ink) (t : Text) : Text :=
  if colours then
    "\x1b[".toList ++ Text.join [';'] (inks.map fun i => Text.ofNat i.code) ++ 'm' :: t ++
      "\x1b[0m".toList
  else t

/-! ## Sections -/

namespace CategorySummary

def averageText (s : CategorySummary) : Text :=
  let places := s.averageHundredths % 100
  Text.ofNat (s.averageHundredths / 100) ++ '.' :: Text.ofNat (places / 10) ++
    Text.ofNat (places % 10)

def extremeText : Option Extreme → Text
  | some e => Text.ofNat e.score ++ " (".toList ++ e.location.text ++ [')']
  | none => ['0']

def row (name : String) (s : CategorySummary) : List Text :=
  [name.toList, Text.ofNat s.total, Text.ofNat s.totalScore, s.averageText, extremeText s.least,
   extremeText s.greatest, Text.ofNat s.good, Text.ofNat s.bad]

end CategorySummary

namespace SuiteReport

def standardTop : Nat := 5

def titleLines (colours : Bool) : List Text :=
  [paint colours [.bold, .blue] "BDD Suite Report", paint colours [.blue] "================", []]

def categoryLines (r : SuiteReport) : List Text :=
  Table.render ["Category", "Total", "Score", "Average", "Min", "Max", "Good", "Bad"]
    [r.summary.features.row "Features", r.summary.scenarios.row "Scenarios",
     r.summary.definitions.row "Step Definitions", r.summary.hooks.row "Hooks"] ++ [[]]

/-- The nodes with a score, the worst first; nodes of equal score keep their order. -/
def offenders (r : SuiteReport) : List (NodeKind × ScoreCard) :=
  (r.suite.cards.filter fun n => 0 < n.2.score).mergeSort fun a b => b.2.score ≤ a.2.score

def offenderLines (r : SuiteReport) (colours : Bool) (kind : NodeKind) (card : ScoreCard) :
    List Text :=
  let ink := if card.isGood (r.summary.thresholds.forKind kind) then Ink.yellow else Ink.red
  let score := paint colours [ink] (Text.padStart 6 (Text.ofNat card.score))
  ("  ".toList ++ score ++ "  ".toList ++ kind.text ++ ' ' :: card.location.text) ::
    card.violations.entries.map fun (phrase, count) =>
      "          ".toList ++ Text.ofNat count ++ " x ".toList ++ phrase

def worstLines (r : SuiteReport) (colours : Bool) (top : Nat) : List Text :=
  if r.offenders.isEmpty then []
  else
    (paint colours [.bold] "Worst offenders" ++ " (top ".toList ++ Text.ofNat top ++ "):".toList) ::
      (r.offenders.take top).flatMap (fun (kind, card) => r.offenderLines colours kind card) ++ [[]]

def improvementLines (r : SuiteReport) (colours : Bool) : List Text :=
  let entries := r.summary.improvements.entries
  if entries.isEmpty then []
  else
    (paint colours [.bold] "Improvements" ++ [':']) ::
      entries.map (fun (phrase, count) =>
        "  ".toList ++ Text.padStart 5 (Text.ofNat count) ++ "  ".toList ++ phrase) ++ [[]]

def deadLines (r : SuiteReport) (colours : Bool) : List Text :=
  if r.dead.isEmpty then []
  else
    (paint colours [.bold, .yellow] "Dead steps" ++ " (".toList ++ Text.ofNat r.dead.total ++
        "):".toList) ::
      r.dead.byFile.flatMap (fun (file, entries) =>
        ("  ".toList ++ file.text) :: entries.map ("    ".toList ++ ·)) ++ [[]]

def verdictLine (r : SuiteReport) (colours : Bool) : Text :=
  (if r.summary.isGood then paint colours [.bold, .green] "PASS"
    else paint colours [.bold, .red] "FAIL") ++
    ": total score ".toList ++ Text.ofNat r.summary.totalScore ++ " (threshold ".toList ++
    Text.ofNat r.summary.thresholds.project ++ [')']

def terminalLines (r : SuiteReport) (colours : Bool) (top : Nat) : List Text :=
  titleLines colours ++ r.categoryLines ++ r.worstLines colours top ++ r.improvementLines colours ++
    r.deadLines colours ++ [r.verdictLine colours]

def terminalText (r : SuiteReport) (colours : Bool) (top : Nat) : Text :=
  (r.terminalLines colours top).flatMap (· ++ ['\n'])

end SuiteReport

end SuiteAudit
