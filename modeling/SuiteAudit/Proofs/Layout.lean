import SuiteAudit.Proofs.Feature.Content
import SuiteAudit.Proofs.StepFile.Declarations
import SuiteAudit.Proofs.Text.Layout

/-!
# Features and step files in other layouts

White space around lines says nothing: a feature, the definitions of a step file and its hooks are the
same in all layouts of the text, with the lines they are found on (`ofText_relayout`).
-/

namespace SuiteAudit

open Text

/-! ## Features -/

namespace NumberedLine

theorem content_countFrom_trim (place : Nat → Nat) (n : Nat) (lines : List Text) :
    content place (countFrom n (lines.map trim)) = content place (countFrom n lines) := by
  induction lines generalizing n with
  | nil => rfl
  | cons line lines ih =>
      rw [List.map_cons, countFrom, countFrom]
      by_cases blank : trim line = []
      · rw [content_cons_of_blank (by rw [trim_trim, blank]), content_cons_of_blank blank, ih]
      · rw [content_cons_of_filled (by rwa [trim_trim]), content_cons_of_filled blank, ih, trim_trim]

theorem content_countFrom_concat_nil (place : Nat → Nat) (n : Nat) (lines : List Text) :
    content place (countFrom n (lines ++ [[]])) = content place (countFrom n lines) := by
  have blank (m : Nat) : content place (countFrom m [[]]) = [] := rfl
  rw [countFrom_append, content_append, blank, List.append_nil]

end NumberedLine

theorem Feature.ofText_relayout (file : SourcePath) (margin : Nat → Margin) (t : Text) :
    ofText file (relayout margin t) = ofText file t :=
  ofText_of_content file <| read_relayout
    (fun lines => NumberedLine.content id (NumberedLine.countFrom 1 lines))
    (fun lines _ => NumberedLine.content_countFrom_trim id 1 lines)
    (NumberedLine.content_countFrom_concat_nil id 1) margin t

/-! ## Step files -/

theorem Declaration.read?_trim {line : Text} (oneLine : '\n' ∉ line) :
    read? (trim line) = read? line := by
  rw [read?, read?, StepDeclaration.read?_trim oneLine, HookDeclaration.read?_trim oneLine]

theorem Declaration.takeWhile_trim {lines : List Text} (oneLine : ∀ line ∈ lines, '\n' ∉ line) :
    ((lines.map trim).takeWhile fun line => (read? line).isNone) =
      (lines.takeWhile fun line => (read? line).isNone).map trim := by
  induction lines with
  | nil => rfl
  | cons line lines ih =>
      obtain ⟨first, later⟩ := List.forall_mem_cons.mp oneLine
      rw [List.map_cons, List.takeWhile_cons, List.takeWhile_cons, read?_trim first, ih later]
      split <;> rfl

namespace Block

theorem bodyBelow_trim (start : BlockStart) (below : List Text) :
    bodyBelow start (below.map trim) = bodyBelow start below := by
  have trimmed : (below.map trim).map trim = below.map trim := by simp [Function.comp_def, trim_trim]
  simp only [bodyBelow, bodyOf, trimmed]

theorem split_trim (n : Nat) {lines : List Text} (oneLine : ∀ line ∈ lines, '\n' ∉ line) :
    split n (lines.map trim) = split n lines := by
  induction lines generalizing n with
  | nil => rfl
  | cons line lines ih =>
      obtain ⟨first, later⟩ := List.forall_mem_cons.mp oneLine
      have rest := ih (n + 1) later
      cases declared : Declaration.read? line with
      | none => simp [split, Declaration.read?_trim first, declared, rest]
      | some d =>
          simp [split, Declaration.read?_trim first, declared, rest, Declaration.takeWhile_trim later,
            bodyBelow_trim]

theorem beforeLast?_concat {test : Text → Bool} {line : Text} (fails : test line = false)
    (lines : List Text) : beforeLast? test (lines ++ [line]) = beforeLast? test lines := by
  simp [beforeLast?, fails]

theorem bodyBelow_concat_nil (start : BlockStart) (below : List Text) :
    bodyBelow start (below ++ [[]]) = bodyBelow start below := by
  have ends : isTerminator start.opener [] = false := by cases start.opener <;> decide
  have blank : (below ++ [[]]).map trim = below.map trim ++ [[]] := by
    rw [List.map_append]
    rfl
  simp only [bodyBelow, bodyOf, blank, beforeLast?_concat ends, List.reverse_append]
  rfl

theorem bodyBelow_takeWhile_concat_nil (start : BlockStart) (lines : List Text) :
    bodyBelow start ((lines ++ [[]]).takeWhile fun line => (Declaration.read? line).isNone) =
      bodyBelow start (lines.takeWhile fun line => (Declaration.read? line).isNone) := by
  have last : ([[]].takeWhile fun line => (Declaration.read? line).isNone) = [[]] := by decide
  rw [List.takeWhile_append]
  split
  case isTrue all =>
    rw [last, (List.takeWhile_prefix _).eq_of_length all, bodyBelow_concat_nil]
  case isFalse => rfl

theorem split_concat_nil (n : Nat) (lines : List Text) : split n (lines ++ [[]]) = split n lines := by
  induction lines generalizing n with
  | nil =>
      have nothing : Declaration.read? [] = none := by decide
      simp [split, nothing]
  | cons line lines ih =>
      cases declared : Declaration.read? line with
      | none => simp [split, declared, ih]
      | some d => simp [split, declared, ih, bodyBelow_takeWhile_concat_nil]

theorem ofText_relayout (margin : Nat → Margin) (t : Text) :
    ofText (relayout margin t) = ofText t :=
  read_relayout (split 1) (fun _ => split_trim 1) (split_concat_nil 1) margin t

end Block

/-- Each line may get other white space around it: what is read of the text stays the same. -/
theorem nodes_relayout (file : SourcePath) (margin : Nat → Margin) (t : Text) :
    Feature.ofText file (relayout margin t) = Feature.ofText file t ∧
      StepDefinition.ofText file (relayout margin t) = StepDefinition.ofText file t ∧
      Hook.ofText file (relayout margin t) = Hook.ofText file t := by
  refine ⟨Feature.ofText_relayout file margin t, ?_, ?_⟩
  · rw [StepDefinition.ofText, StepDefinition.ofText, Block.ofText_relayout]
  · rw [Hook.ofText, Hook.ofText, Block.ofText_relayout]

/-- A tab and a no-break space to the left, an ideographic space and a carriage return to the right. -/
def wideMargin : Margin where
  left := "\t\u00a0"
  right := "\u3000\r"
  blank := List.all_eq_true.mp (by decide)
  oneLine := by decide

theorem nodes_relayout_wide :
    relayout (fun _ => wideMargin) "Feature: Trip\nScenario: Out\nGiven a bag" =
        "\t\u00a0Feature: Trip\u3000\r\n\t\u00a0Scenario: Out\u3000\r\n\t\u00a0Given a bag\u3000\r" ∧
      (Feature.ofText ⟨"trip"⟩ (relayout (fun _ => wideMargin)
          "Feature: Trip\nScenario: Out\nGiven a bag")).scenarios.flatMap Scenario.steps =
        ["Given a bag"] ∧
      (StepDefinition.ofText ⟨"trip.rb"⟩ (relayout (fun _ => wideMargin)
          "Given 'a bag' do\nsteps \"When I pack\"\nend")).map StepDefinition.source =
        ["a bag"] := by
  refine ⟨by decide +kernel, ?_, ?_⟩
  · rw [(nodes_relayout ⟨"trip"⟩ _ _).1]
    decide +kernel
  · rw [(nodes_relayout ⟨"trip.rb"⟩ _ _).2.1]
    decide +kernel

end SuiteAudit
