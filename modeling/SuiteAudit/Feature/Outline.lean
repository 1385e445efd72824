import SuiteAudit.Feature.Basic

/-!
# Outlines

A scenario outline stands for one scenario per row of its example table. The first row that is no
comment is the header, and a placeholder `<name>` in a step stands for the cell under that name.
-/

namespace SuiteAudit

structure ExampleRow where
  /-- The position among the rows, counted from one. -/
  number : Nat
  cells : List Text
  commented : Bool
deriving DecidableEq, Repr

namespace ExampleRow

/-- The rows of a table with the given header, numbered from `n` on. A row equal to the header
starts another table and does not count. -/
def below (header : List Text) (n : Nat) : List Text → List ExampleRow
  | [] => []
  | line :: rest =>
    if Line.isComment line then ⟨n, [], true⟩ :: below header (n + 1) rest
    else if Line.cells line = header then below header n rest
    else ⟨n, Line.cells line, false⟩ :: below header (n + 1) rest

end ExampleRow

namespace Placeholder

def name? : Text → Option Text
  | '<' :: t =>
    let name := t.takeWhile fun c => c != '<' && c != '>'
    if !name.isEmpty && (t.drop name.length).head? = some '>' then some name else none
  | _ => none

def replaceNames (f : Text → Text) (t : Text) : Text :=
  Text.replaceEach (fun t => (name? t).map fun name => (f name, name.length + 2)) t

def names (t : Text) : List Text :=
  Text.findAll (fun _ t => (name? t).map fun name => (name, name.length + 2)) t

/-- The step with the cells of a row for its placeholders. A placeholder without a cell stays. -/
def fill (header cells : List Text) (step : Text) : Text :=
  replaceNames (fun name =>
    ((header.idxOf? name).bind fun i => cells[i]?).getD ('<' :: name ++ ['>'])) step

end Placeholder

namespace Scenario

def exampleTable (s : Scenario) : List Text × List ExampleRow :=
  match s.examples.dropWhile Line.isComment with
  | [] => ([], [])
  | header :: rows => (Line.cells header, ExampleRow.below (Line.cells header) 1 rows)

/-- The steps of an outline, once for each row that is not commented out. -/
def expansion (s : Scenario) : List (StepLocation × Text) :=
  let (header, rows) := s.exampleTable
  (rows.filter fun r => !r.commented).flatMap fun r =>
    s.liveSteps.map fun (step, line) =>
      (⟨s.card.location.atLine line, some r.number⟩, Placeholder.fill header r.cells step)

end Scenario

end SuiteAudit
