import SuiteAudit.Feature.Reader
import SuiteAudit.Proofs.Guarded.Basic
import SuiteAudit.Proofs.List

/-!
# Guarded reading of feature files

A feature file read by positions of its lines: the title is looked up, and the lines above it, those
of its name and those below are cut out. None of this has a fault on any text, and what it gives is
what the reader gives.
-/

namespace SuiteAudit

namespace Guarded

variable {α : Type}

/-- The lines of a description, the first of them at position `index`, and the position after it. -/
def descriptionFrom (index : Nat) : List NumberedLine → List Text × Nat
  | [] => ([], index)
  | l :: ls =>
    let line := Text.trim l.text
    if line.isEmpty then descriptionFrom (index + 1) ls
    else if Feature.endsName line then ([], index)
    else
      let (rest, stop) := descriptionFrom (index + 1) ls
      (line :: rest, stop)

/-- The name of a node whose title stands before position `start`, and the position after it. -/
def nameFrom (title : Text) (lines : List NumberedLine) (start : Nat) : Text × Nat :=
  let (description, stop) := descriptionFrom start (lines.drop start)
  (Text.join [' '] ((if title.isEmpty then [] else [title]) ++ description), stop)

def scenario? (file : SourcePath) (segment : List NumberedLine) : Except Fault (Option Scenario) :=
  match segment.findIdx? fun l => Feature.isTitle l.text with
  | none => .ok none
  | some index => do
    let title ← get segment index
    let above ← slice segment 0 index
    match Line.scenarioTitle? title.text with
    | none => return none
    | some (kind, start) =>
      let (name, stop) := nameFrom start segment (index + 1)
      let body ← slice segment stop segment.length
      let marker := (body.findIdx? fun l => Line.isExamples l.text).getD body.length
      let steps ← slice body 0 marker
      let examples ← slice body marker body.length
      let s : Scenario :=
        { card := { location := ⟨file, title.number⟩ }, name, tags := Feature.tagsOf above, kind }
      let s := Feature.withSteps s steps
      return some (if kind.isOutline then { s with examples := Feature.exampleLines examples } else s)

/-- The feature without its blocks, and the position after its name. -/
def header (file : SourcePath) (lines : List NumberedLine) : Except Fault (Feature × Nat) :=
  match lines.findIdx? fun l => (Line.featureTitle? l.text).isSome with
  | none => .ok ({ card := { location := ⟨file, 1⟩ } }, 0)
  | some index => do
    let title ← get lines index
    let above ← slice lines 0 index
    let (name, stop) := nameFrom ((Line.featureTitle? title.text).getD []) lines (index + 1)
    return ({ card := { location := ⟨file, title.number⟩ }, name, tags := Feature.tagsOf above },
      stop)

def feature (file : SourcePath) (t : Text) : Except Fault Feature := do
  let lines := NumberedLine.ofText t
  let (f, start) ← header file lines
  let body ← slice lines start lines.length
  let blocks ← (Feature.segments body).mapM (scenario? file)
  return (blocks.filterMap id).foldl Feature.addBlock f

theorem descriptionFrom_eq (index : Nat) (lines : List NumberedLine) :
    (descriptionFrom index lines).1 = (Feature.readDescription lines).1 ∧
      ∃ n ≤ lines.length, (descriptionFrom index lines).2 = index + n ∧
        (Feature.readDescription lines).2 = lines.drop n := by
  induction lines generalizing index with
  | nil => exact ⟨rfl, 0, Nat.le_refl 0, rfl, rfl⟩
  | cons l ls ih =>
      obtain ⟨same, n, bound, stop, rest⟩ := ih (index + 1)
      have next : (descriptionFrom (index + 1) ls).2 = index + (n + 1) := by omega
      simp only [descriptionFrom, Feature.readDescription]
      split
      · exact ⟨same, n + 1, Nat.succ_le_succ bound, next, rest⟩
      · split
        · exact ⟨rfl, 0, Nat.zero_le _, rfl, rfl⟩
        · exact ⟨congrArg (_ :: ·) same, n + 1, Nat.succ_le_succ bound, next, rest⟩

theorem nameFrom_eq (title : Text) (before rest : List NumberedLine) :
    (nameFrom title (before ++ rest) before.length).1 = (Feature.readName title rest).1 ∧
      slice (before ++ rest) (nameFrom title (before ++ rest) before.length).2
        (before ++ rest).length = .ok (Feature.readName title rest).2 := by
  obtain ⟨same, n, bound, stop, after⟩ := descriptionFrom_eq before.length rest
  simp only [nameFrom, Feature.readName, List.drop_left, same, stop, after, true_and]
  rw [slice_drop (by simp; omega), List.drop_append]
  simp

theorem nameFrom_title (start : Text) (above : List NumberedLine) (title : NumberedLine)
    (rest : List NumberedLine) :
    (nameFrom start (above ++ title :: rest) (above.length + 1)).1 =
        (Feature.readName start rest).1 ∧
      slice (above ++ title :: rest) (nameFrom start (above ++ title :: rest) (above.length + 1)).2
        (above ++ title :: rest).length = .ok (Feature.readName start rest).2 := by
  have cut := nameFrom_eq start (above ++ [title]) rest
  rwa [List.append_assoc, List.singleton_append, List.length_append, List.length_singleton] at cut

theorem slice_examples (body : List NumberedLine) :
    let marker := (body.findIdx? fun l => Line.isExamples l.text).getD body.length
    let steps := body.takeWhile fun l => !Line.isExamples l.text
    slice body 0 marker = .ok steps ∧
      slice body marker body.length = .ok (body.drop steps.length) := by
  intro marker steps
  have place : marker = steps.length ∧ body = steps ++ body.drop steps.length := by
    have cases := findIdx?_cases (fun l : NumberedLine => Line.isExamples l.text) body
    cases found : body.findIdx? fun l => Line.isExamples l.text with
    | none =>
        rw [found] at cases
        have whole : steps = body := cases
        simp [marker, found, whole]
    | some i =>
        rw [found] at cases
        obtain ⟨above, x, rest, split, rfl, before⟩ := cases
        have whole : steps = above := before
        have here : marker = above.length := by simp only [marker, found, Option.getD_some]
        rw [whole]
        exact ⟨here, by rw [split, List.drop_left]⟩
  obtain ⟨place, split⟩ := place
  have bound : steps.length ≤ body.length := by
    rw [split, List.length_append]
    exact Nat.le_add_right _ _
  rw [place, slice_take bound, slice_drop bound]
  refine ⟨congrArg Except.ok ?_, rfl⟩
  conv_lhs => rw [split]
  exact List.take_left

theorem scenario?_eq (file : SourcePath) (segment : List NumberedLine) :
    scenario? file segment = .ok (Feature.readScenario? file segment) := by
  have titled := findIdx?_cases (fun l : NumberedLine => Feature.isTitle l.text) segment
  cases found : segment.findIdx? fun l => Feature.isTitle l.text with
  | none =>
      rw [found] at titled
      simp only [scenario?, found, Feature.readScenario?, titled, List.drop_length]
  | some index =>
      rw [found] at titled
      obtain ⟨above, title, rest, rfl, rfl, before⟩ := titled
      simp only [scenario?, found, Feature.readScenario?, before, List.drop_left, get_append,
        slice_take (show above.length ≤ (above ++ title :: rest).length by simp), List.take_left,
        ok_bind]
      cases Line.scenarioTitle? title.text with
      | none => rfl
      | some s =>
          obtain ⟨kind, start⟩ := s
          obtain ⟨name, body⟩ := nameFrom_title start above title rest
          obtain ⟨steps, examples⟩ := slice_examples (Feature.readName start rest).2
          simp only [name, body, steps, examples, ok_bind]
          rfl

theorem header_eq (file : SourcePath) (lines : List NumberedLine) :
    ∃ start, header file lines = .ok ((Feature.readHeader file lines).1, start) ∧
      slice lines start lines.length = .ok (Feature.readHeader file lines).2 := by
  have titled := findIdx?_cases (fun l : NumberedLine => (Line.featureTitle? l.text).isSome) lines
  simp only [Option.not_isSome] at titled
  cases found : lines.findIdx? fun l => (Line.featureTitle? l.text).isSome with
  | none =>
      rw [found] at titled
      simp only [header, found, Feature.readHeader, titled, List.drop_length]
      exact ⟨0, rfl, slice_drop (Nat.zero_le _)⟩
  | some index =>
      rw [found] at titled
      obtain ⟨above, title, rest, rfl, rfl, before⟩ := titled
      obtain ⟨name, body⟩ := nameFrom_title ((Line.featureTitle? title.text).getD []) above title rest
      simp only [header, found, Feature.readHeader, before, List.drop_left, get_append,
        slice_take (show above.length ≤ (above ++ title :: rest).length by simp), List.take_left,
        ok_bind, name]
      exact ⟨_, rfl, body⟩

theorem feature_eq (file : SourcePath) (t : Text) : feature file t = .ok (Feature.ofText file t) := by
  obtain ⟨start, read, body⟩ := header_eq file (NumberedLine.ofText t)
  have scenarios := mapM_ok fun segment (_ : segment ∈ Feature.segments
    (Feature.readHeader file (NumberedLine.ofText t)).2) => scenario?_eq file segment
  simp only [feature, read, ok_bind, body, scenarios, List.filterMap_map]
  rfl

end Guarded

end SuiteAudit
