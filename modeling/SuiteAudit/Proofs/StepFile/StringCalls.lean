import SuiteAudit.Proofs.Feature.Draft
import SuiteAudit.Proofs.StepFile.Masks
import SuiteAudit.Proofs.StepFile.OpenLiterals

/-!
# Steps in features and steps in strings

A step in a feature keeps its keyword until it is matched, and a step that a body calls in a string is
recorded without it. Matching takes a keyword away from either, so the two reach the same definitions
unless the text after the keyword begins with a keyword again: from a string, that one is lost too.
-/

namespace SuiteAudit

open Text

/-! ## Strings without escapes and interpolations -/

theorem Quoted.escaped?_append {q : Char} (quote : q ≠ '\\') {t : Text} (unquoted : q ∉ t)
    (unescaped : '\\' ∉ t) (rest : Text) :
    Quoted.escaped? q (t ++ q :: rest) = some (t, rest) := by
  induction t with
  | nil => simp [Quoted.escaped?, quote]
  | cons c t ih =>
      obtain ⟨other, unquoted⟩ := List.ne_and_not_mem_of_not_mem_cons unquoted
      obtain ⟨plain, unescaped⟩ := List.ne_and_not_mem_of_not_mem_cons unescaped
      simp [Quoted.escaped?, Ne.symm other, Ne.symm plain, ih unquoted unescaped]

namespace Masked

theorem ofLine_of_uninterpolated {line : Text} (plain : ¬['#', '\x7b'] <:+: line) :
    ofLine line = ⟨line, []⟩ := by
  rw [ofLine_eq, mask_unmarked plain, Piece.groups_unmarked plain]

theorem finish_of_unmarked (m : Masked) {t : Text} (unmarked : mark ∉ t) (unescaped : '\\' ∉ t)
    (filled : allBlank t = false) : m.finish t = some t := by
  simp [finish, replaceTokens_of_unmarked _ unmarked, filled, filter_unescaped unescaped]

end Masked

/-! ## Calls -/

namespace Draft

/-- A step that can stand in double quotes as it is. -/
structure StringStep extends Step where
  unquoted : '"' ∉ text
  unescaped : '\\' ∉ text
  uninterpolated : ¬['#', '\x7b'] <:+: text
  unmarked : Masked.mark ∉ text

namespace StringStep

/-- The line of a body that calls the step. -/
def callLine (s : StringStep) : Text := "steps \"".toList ++ (s.line ++ ['"'])

theorem not_mem_line {c : Char} (s : StringStep) (absent : c ∉ s.text)
    (other : c ∉ ("GivenWhenThenAndButOr* " : Text)) : c ∉ s.line := by
  have keyword : s.keyword.text ⊆ ("GivenWhenThenAndButOr* " : Text) := by
    cases s.keyword <;> decide
  have blank : c ≠ ' ' := by
    rintro rfl
    exact other (by decide)
  simp only [Step.line, List.mem_append, List.mem_cons, not_or]
  exact ⟨fun member => other (keyword member), blank, absent⟩

theorem trim_callLine (s : StringStep) : trim s.callLine = s.callLine := by
  have start : trimStart s.callLine = s.callLine := rfl
  have solid : "steps \"".toList.getLast?.any isBlank = false := by decide
  have stop : trimEnd (s.line ++ ['"']) = s.line ++ ['"'] :=
    List.rdropWhile_concat_neg isBlank s.line '"' (by decide)
  rw [trim, start]
  unfold callLine
  rw [trimEnd_append solid, stop]

theorem line_uninterpolated (s : StringStep) : ¬['#', '\x7b'] <:+: s.line := by
  have keyword : '#' ∉ s.keyword.text := by cases s.keyword <;> decide
  have blank : '#' ∉ [' '] := by decide
  rw [Step.line, Piece.mark_infix_append keyword]
  exact fun inside => s.uninterpolated ((Piece.mark_infix_append blank).mp inside)

theorem callLine_uninterpolated (s : StringStep) : ¬['#', '\x7b'] <:+: s.callLine := by
  have start : '#' ∉ "steps \"".toList := by decide
  unfold callLine
  rw [Piece.mark_infix_append start, List.infix_concat_iff, not_or]
  refine ⟨fun ⟨before, same⟩ => ?_, s.line_uninterpolated⟩
  have last := congrArg List.getLast? same
  simp at last

theorem string?_callLine (s : StringStep) : CallLine.string? s.callLine = some ('"', s.text) := by
  have called : CallLine.afterCall? s.callLine = some (false, '"' :: (s.line ++ ['"'])) := rfl
  have content : Quoted.escaped? '"' (s.line ++ ['"']) = some (s.line, []) :=
    Quoted.escaped?_append (by decide) (s.not_mem_line s.unquoted (by decide))
      (s.not_mem_line s.unescaped (by decide)) []
  have keyword : StepKeyword.read? s.line = some (s.keyword, ' ' :: s.text) := by
    unfold Step.line
    cases s.keyword <;> rfl
  have text : CallLine.withoutKeyword s.line = s.text := by
    have blank : isBlank ' ' = true := rfl
    simp [CallLine.withoutKeyword, keyword, blank, trimStart_of_trimmed s.trimmed]
  have ends : CallLine.endsCall [] = true := rfl
  simp [CallLine.string?, called, content, text, ends]

theorem ofLine_callLine (s : StringStep) : CallLine.ofLine s.callLine = .call s.text := by
  have filled : s.callLine.isEmpty = false := rfl
  have comment : Line.isComment s.callLine = false := rfl
  have finish := Masked.finish_of_unmarked ⟨s.callLine, []⟩ s.unmarked s.unescaped
    (allBlank_of_trimmed s.trimmed s.nonempty)
  simp [CallLine.ofLine, s.trim_callLine, filled, comment, s.string?_callLine, CallLine.ofText?,
    Masked.ofLine_of_uninterpolated s.callLine_uninterpolated, finish]

/-- In any body, the text of the step is what is recorded for the line that calls it. -/
theorem mem_nestedAt_callLine (s : StringStep) (anchor : Location) (above below : List Text)
    (t : Text) :
    (⟨anchor.file, anchor.line + (above.length + 1)⟩, t) ∈
      nestedAt anchor (above ++ s.callLine :: below) ↔ t = s.text := by
  have here : (above ++ s.callLine :: below)[above.length]? = some s.callLine := by simp
  have carried : (CallLine.ofLine s.callLine).text? = some s.text := by rw [s.ofLine_callLine]; rfl
  have alone : (CallLine.ofLine s.callLine).standsAlone = true := by rw [s.ofLine_callLine]; rfl
  rw [mem_nestedAt]
  constructor
  · rintro ⟨i, line, found, place, text, -⟩
    obtain rfl : i = above.length := by
      have := congrArg Location.line place
      simp only at this
      omega
    obtain rfl : s.callLine = line := Option.some.inj (here.symm.trans found)
    exact Option.some.inj (text.symm.trans carried)
  · rintro rfl
    exact ⟨above.length, s.callLine, here, rfl, carried, .inl alone⟩

end StringStep

theorem Step.stepText_line (s : Step) : Line.stepText s.line = s.text := by
  rw [Line.stepText, s.splitStep?_line]

end Draft

/-- A step that a body calls in a string is recorded as its text. That reaches the definitions that the
step reaches in a feature if it is no step line of its own; else it is matched without its keyword. -/
theorem StepDefinition.isMatch_called (s : Draft.StringStep) (d : StepDefinition) (anchor : Location)
    (above below : List Text) :
    (∀ t, (⟨anchor.file, anchor.line + (above.length + 1)⟩, t) ∈
        nestedAt anchor (above ++ s.callLine :: below) ↔ t = s.text) ∧
      (Line.splitStep? s.text = none → d.isMatch s.line = d.isMatch s.text) ∧
      ∀ keyword text, Line.splitStep? s.text = some (keyword, text) →
        d.isMatch s.line = d.pattern.isMatch s.text ∧
          d.isMatch s.text = d.pattern.isMatch text := by
  refine ⟨s.mem_nestedAt_callLine anchor above below, fun plain => ?_, fun keyword text step => ?_⟩
  · have kept : Line.stepText s.text = s.text := by rw [Line.stepText, plain]; exact s.trimmed
    rw [isMatch, isMatch, s.stepText_line, kept]
  · have shorter : Line.stepText s.text = text := by rw [Line.stepText, step]
    exact ⟨by rw [isMatch, s.stepText_line], by rw [isMatch, shorter]⟩

def localStep : Draft.StringStep where
  keyword := .outcome
  text := "in Rome"
  trimmed := by decide
  oneLine := by decide
  nonempty := by decide
  unquoted := by decide
  unescaped := by decide
  uninterpolated := by decide +kernel
  unmarked := by decide

def romanStep : Draft.StringStep where
  keyword := .given
  text := "When in Rome"
  trimmed := by decide
  oneLine := by decide
  nonempty := by decide
  unquoted := by decide
  unescaped := by decide
  uninterpolated := by decide +kernel
  unmarked := by decide

/-- Definitions of steps, and one whose body calls two of them. -/
def travelSteps : List StepDefinition :=
  StepDefinition.ofText ⟨"trip.rb"⟩ <| join ['\n']
    ["Given 'When in Rome' do", "end", "Then 'in Rome' do", "end", "Then 'all is well' do",
      "steps \"Given When in Rome\"", "steps \"Then in Rome\"", "end"]

theorem StepDefinition.isMatch_called_local :
    Line.splitStep? localStep.text = none ∧
      (travelSteps.flatMap fun d => d.nested.map fun e => (e.1.line, e.2)) =
        [(6, romanStep.text), (7, localStep.text)] ∧
      travelSteps.map (fun d => d.isMatch localStep.line) = [false, true, false] ∧
      ∀ d ∈ travelSteps, d.isMatch localStep.line = d.isMatch localStep.text := by
  have plain : Line.splitStep? localStep.text = none := by decide +kernel
  refine ⟨plain, by decide +kernel, by decide +kernel, fun d _ => ?_⟩
  exact (isMatch_called localStep d ⟨⟨"trip.rb"⟩, 5⟩ [romanStep.callLine] []).2.1 plain

/-- The second keyword of a step is kept in a feature and taken away in a string. -/
theorem StepDefinition.isMatch_secondKeyword :
    nestedCalls [romanStep.callLine] = [(1, romanStep.text)] ∧
      travelSteps.map (fun d => (d.isMatch romanStep.line, d.isMatch romanStep.text)) =
        [(true, false), (false, true), (false, false)] := by
  decide +kernel

end SuiteAudit
