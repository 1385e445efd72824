import SuiteAudit.Feature.Line
import SuiteAudit.Proofs.Text.Layout

/-!
# The grammar of step lines

Up to the white space around it, a step line is a keyword that stands alone, or a keyword, a gap and a
text. No keyword begins another, so a line is a step in one way at most, and reading it finds that way
(`splitStep?_eq_some`).
-/

namespace SuiteAudit

open Text

namespace Text

/-- A text is blank up to where the trimmed text begins. -/
theorem exists_gap {c : Char} (blank : isBlank c = true) {t : Text} (filled : trim (c :: t) ≠ []) :
    ∃ gap, gap ≠ [] ∧ allBlank gap = true ∧ trimEnd (c :: t) = gap ++ trim (c :: t) := by
  rw [trim_cons_of_blank blank] at filled ⊢
  obtain ⟨gap, blanks, cut⟩ := exists_trimStart (trimEnd t)
  rw [trimStart_trimEnd, ← trim] at cut
  have rest : (trimEnd t).isEmpty = false := by
    rw [cut]
    simp [filled]
  refine ⟨c :: gap, List.cons_ne_nil c gap, ?_, ?_⟩
  · rw [allBlank, List.all_cons, blank, Bool.true_and]
    exact blanks
  · rw [trimEnd_cons, rest, Bool.and_false, if_neg Bool.false_ne_true, cut, List.cons_append]

theorem trimEnd_eq_nil {t : Text} (empty : trim t = []) : trimEnd t = [] := by
  obtain ⟨space, blanks, cut⟩ := exists_trimStart (trimEnd t)
  rw [trimStart_trimEnd, ← trim, empty, List.append_nil] at cut
  rw [← trimEnd_trimEnd, cut]
  exact trimEnd_append_of_blank [] (List.all_eq_true.mp blanks)

end Text

theorem StepKeyword.read?_eq_some {t rest : Text} {k : StepKeyword} :
    StepKeyword.read? t = some (k, rest) ↔ t = k.text ++ rest := by
  constructor
  · intro found
    obtain ⟨k', -, same⟩ := List.exists_of_findSome?_eq_some found
    obtain ⟨rest', cut, equal⟩ := Option.map_eq_some_iff.mp same
    cases equal
    exact after?_eq_some.mp cut
  · rintro rfl
    cases k <;> rfl

namespace Line

/-- The line is a step with the given keyword and text: the keyword stands alone and there is no text,
or white space stands between them. -/
def WritesStep (line k t : Text) : Prop :=
  k ∈ StepKeyword.all.map StepKeyword.text ∧
    (trim line = k ∧ t = [] ∨
      ∃ gap, gap ≠ [] ∧ allBlank gap = true ∧ trim line = k ++ gap ++ t ∧ t ≠ [] ∧ trim t = t)

/-! ## What follows the keyword -/

theorem splitStep?_eq {line : Text} (oneLine : '\n' ∉ line) :
    splitStep? line = (StepKeyword.read? (trimStart line)).bind fun (k, rest) =>
      if rest.head?.all isBlank then some (k, trim rest) else none := by
  rw [splitStep?, step?]
  cases read : StepKeyword.read? (trimStart line) with
  | none => rfl
  | some found =>
      obtain ⟨k, rest⟩ := found
      have start : trimStart line = k.text ++ rest := StepKeyword.read?_eq_some.mp read
      have plain : hasLineFeed (trim rest) = false := by
        rw [hasLineFeed_eq_false]
        intro member
        have below : '\n' ∈ trimStart line := by
          rw [start]
          exact List.mem_append_right _ ((trim_isInfix rest).subset member)
        exact oneLine ((trimStart_suffix line).subset below)
      cases rest with
      | nil => rfl
      | cons c rest => cases blank : isBlank c <;> simp [blank, plain]

theorem writesStep_iff {line : Text} {k : StepKeyword} {t : Text} :
    WritesStep line k.text t ↔
      ∃ rest, trimStart line = k.text ++ rest ∧ rest.head?.all isBlank = true ∧ trim rest = t := by
  constructor
  · rintro ⟨-, written⟩
    -- What was trimmed at the end of the line stands at the end of what follows the keyword.
    obtain ⟨after, cut, blanks⟩ := exists_trimEnd_append (trimStart line)
    rw [← trim] at cut
    rcases written with ⟨whole, rfl⟩ | ⟨gap, filled, blank, whole, -, trimmed⟩
    · refine ⟨after, by rw [cut, whole], ?_, trim_between (List.forall_mem_nil _) blanks []⟩
      cases after with
      | nil => rfl
      | cons c after => exact blanks c List.mem_cons_self
    · refine ⟨gap ++ t ++ after, ?_, ?_, (trim_between (List.all_eq_true.mp blank) blanks t).trans trimmed⟩
      · rw [cut, whole, List.append_assoc, List.append_assoc, List.append_assoc]
      · obtain ⟨c, gap, rfl⟩ := List.exists_cons_of_ne_nil filled
        exact List.all_eq_true.mp blank c List.mem_cons_self
  · rintro ⟨rest, start, blank, rfl⟩
    have solid : k.text.getLast?.any isBlank = false := by cases k <;> rfl
    have whole : trim line = k.text ++ trimEnd rest := by rw [trim, start, trimEnd_append solid]
    refine ⟨List.mem_map_of_mem (by cases k <;> decide), ?_⟩
    by_cases empty : trim rest = []
    · rw [trimEnd_eq_nil empty, List.append_nil] at whole
      exact .inl ⟨whole, empty⟩
    · cases rest with
      | nil => exact absurd rfl empty
      | cons c rest =>
          obtain ⟨gap, filled, blanks, cut⟩ := exists_gap (by simpa using blank) empty
          rw [cut, ← List.append_assoc] at whole
          exact .inr ⟨gap, filled, blanks, whole, empty, trim_trim _⟩

/-! ## Steps -/

theorem splitStep?_eq_some {line : Text} (oneLine : '\n' ∉ line) {k : StepKeyword} {t : Text} :
    splitStep? line = some (k, t) ↔ WritesStep line k.text t := by
  rw [splitStep?_eq oneLine, writesStep_iff, Option.bind_eq_some_iff]
  constructor
  · rintro ⟨⟨k', rest⟩, read, found⟩
    have start := StepKeyword.read?_eq_some.mp read
    simp only [Option.ite_none_right_eq_some, Option.some.injEq, Prod.mk.injEq] at found
    obtain ⟨blank, rfl, same⟩ := found
    exact ⟨rest, start, blank, same⟩
  · rintro ⟨rest, start, blank, rfl⟩
    exact ⟨(k, rest), StepKeyword.read?_eq_some.mpr start, if_pos blank⟩

theorem exists_splitStep? {line k t : Text} (oneLine : '\n' ∉ line) (written : WritesStep line k t) :
    ∃ keyword : StepKeyword, keyword.text = k ∧ splitStep? line = some (keyword, t) := by
  obtain ⟨keyword, -, rfl⟩ := List.mem_map.mp written.1
  exact ⟨keyword, rfl, (splitStep?_eq_some oneLine).mpr written⟩

theorem splitStep?_eq_none {line : Text} (oneLine : '\n' ∉ line) :
    splitStep? line = none ↔ ¬ ∃ k t, WritesStep line k t := by
  constructor
  · rintro missing ⟨k, t, written⟩
    obtain ⟨keyword, -, split⟩ := exists_splitStep? oneLine written
    rw [missing] at split
    cases split
  · intro unwritten
    rw [Option.eq_none_iff_forall_ne_some]
    rintro ⟨keyword, t⟩ split
    exact unwritten ⟨keyword.text, t, (splitStep?_eq_some oneLine).mp split⟩

/-- A line is split into a keyword and a text exactly if it is written that way, and is no step if it is
written in no such way. What it says is the text, or the whole line if it is no step. -/
theorem splitStep?_writes {line : Text} (oneLine : '\n' ∉ line) :
    (∀ k t : Text, ((splitStep? line).map fun s => (s.1.text, s.2)) = some (k, t) ↔
        WritesStep line k t) ∧
      (splitStep? line = none ↔ ¬ ∃ k t, WritesStep line k t) ∧
      (∀ k t, WritesStep line k t → stepText line = t) ∧
      ((¬ ∃ k t, WritesStep line k t) → stepText line = trim line) := by
  refine ⟨fun k t => ⟨fun texts => ?_, fun written => ?_⟩, splitStep?_eq_none oneLine,
    fun k t written => ?_, fun unwritten => ?_⟩
  · obtain ⟨⟨keyword, text⟩, split, same⟩ := Option.map_eq_some_iff.mp texts
    cases same
    exact (splitStep?_eq_some oneLine).mp split
  · obtain ⟨keyword, rfl, split⟩ := exists_splitStep? oneLine written
    rw [split]
    rfl
  · obtain ⟨keyword, -, split⟩ := exists_splitStep? oneLine written
    rw [stepText, split]
  · rw [stepText, (splitStep?_eq_none oneLine).mpr unwritten]

/-- White space of several kinds around the parts of a step, and a text that begins like a step. -/
def wideStep : Text := "\t*\u3000\xa0Then * go\u2003 "

theorem splitStep?_writes_wideStep :
    '\n' ∉ wideStep ∧ WritesStep wideStep ['*'] "Then * go".toList ∧
      ((splitStep? wideStep).map fun s => (s.1.text, s.2)) = some (['*'], "Then * go".toList) ∧
      stepText wideStep = "Then * go".toList := by
  have oneLine : '\n' ∉ wideStep := by decide
  have written : WritesStep wideStep ['*'] "Then * go".toList :=
    ⟨by decide, .inr ⟨"\u3000\xa0".toList, by decide, by decide, by decide, by decide, by decide⟩⟩
  have reads := splitStep?_writes oneLine
  exact ⟨oneLine, written, (reads.1 _ _).mpr written, reads.2.2.1 _ _ written⟩

end Line

end SuiteAudit
