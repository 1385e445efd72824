import SuiteAudit.Proofs.Text.Trim

/-!
# Lines and words

Lines that are written one below the other are read back as they were (`lines_flatMap`), and so are
words with a blank between them (`words_join`).
-/

namespace SuiteAudit.Text

/-! ## Lines -/

theorem not_mem_of_mem_lines {t line : Text} (member : line ∈ lines t) : '\n' ∉ line := by
  fun_induction lines t generalizing line with
  | case1 => cases member
  | case2 t ih =>
      rcases List.mem_cons.mp member with rfl | later
      · exact List.not_mem_nil
      · exact ih later
  | case3 t ih =>
      rcases List.mem_cons.mp member with rfl | later
      · exact List.not_mem_nil
      · exact ih later
  | case4 c t _ other none _ =>
      obtain rfl := List.mem_singleton.mp member
      simpa using fun same => other same.symm
  | case5 c t _ other first rest found ih =>
      rcases List.mem_cons.mp member with rfl | later
      · have below : '\n' ∉ first := ih (by simp [found])
        simp only [List.mem_cons, not_or]
        exact ⟨fun same => other same.symm, below⟩
      · exact ih (by rw [found]; exact List.mem_cons_of_mem first later)

/-- The text stands on one line, and the ending of the line takes nothing away from it. -/
def IsLine (t : Text) : Prop := '\n' ∉ t ∧ t.getLast? ≠ some '\r'

theorem IsLine.tail {c : Char} {t : Text} (line : IsLine (c :: t)) : IsLine t := by
  refine ⟨fun member => line.1 (List.mem_cons_of_mem c member), ?_⟩
  cases t with
  | nil => simp
  | cons d t => simpa using line.2

theorem isLine_of_trimmed {t : Text} (oneLine : '\n' ∉ t) (trimmed : trimEnd t = t) : IsLine t := by
  refine ⟨oneLine, fun last => ?_⟩
  obtain ⟨head, rfl⟩ := List.getLast?_eq_some_iff.mp last
  have shorter : trimEnd (head ++ ['\r']) = trimEnd head :=
    List.rdropWhile_concat_pos isBlank head '\r' (by decide)
  have length := (trimEnd_isPrefix head).length_le
  rw [← shorter, trimmed, List.length_append] at length
  exact absurd length (by simp)

theorem lines_append {line : Text} (whole : IsLine line) (t : Text) :
    lines (line ++ '\n' :: t) = line :: lines t := by
  induction line with
  | nil => rfl
  | cons c line ih =>
      have rest := ih whole.tail
      have feed : c ≠ '\n' := fun same => whole.1 (by simp [same])
      have ending : ∀ t', c = '\r' → line ++ '\n' :: t = '\n' :: t' → False := by
        intro t' carriage same
        cases line with
        | nil => exact whole.2 (by simp [carriage])
        | cons d line => exact whole.1 (by simp [(List.cons.inj same).1])
      rw [List.cons_append, lines.eq_4 c _ ending feed, rest]

theorem lines_flatMap {ls : List Text} (whole : ∀ line ∈ ls, IsLine line) :
    lines (ls.flatMap (· ++ ['\n'])) = ls := by
  induction ls with
  | nil => rfl
  | cons line ls ih =>
      have rest := ih fun l member => whole l (List.mem_cons_of_mem line member)
      rw [List.flatMap_cons, List.append_assoc, List.singleton_append,
        lines_append (whole line List.mem_cons_self), rest]

theorem lines_of_not_mem {t : Text} (nonempty : t ≠ []) (oneLine : '\n' ∉ t) : lines t = [t] := by
  induction t with
  | nil => exact absurd rfl nonempty
  | cons c t ih =>
      have feed : c ≠ '\n' := fun same => oneLine (by simp [same])
      have rest : '\n' ∉ t := fun member => oneLine (List.mem_cons_of_mem c member)
      have ending : ∀ t', c = '\r' → t = '\n' :: t' → False := by
        rintro t' - rfl
        exact rest List.mem_cons_self
      rw [lines.eq_4 c t ending feed]
      cases t with
      | nil => rfl
      | cons d t => rw [ih (by simp) rest]

/-- The same without an ending on the last line, which then must not be empty. -/
theorem lines_join {ls : List Text} (whole : ∀ line ∈ ls, IsLine line)
    (last : ls.getLast? ≠ some []) : lines (join ['\n'] ls) = ls := by
  induction ls with
  | nil => rfl
  | cons line ls ih =>
      have first := whole line List.mem_cons_self
      cases ls with
      | nil =>
          have filled : line ≠ [] := by simpa using last
          exact lines_of_not_mem filled first.1
      | cons next ls =>
          have rest := ih (fun l member => whole l (List.mem_cons_of_mem line member))
            (by simpa using last)
          rw [join, List.append_assoc, List.singleton_append, lines_append first, rest]

theorem mem_join {c : Char} {sep : Text} {ws : List Text} (member : c ∈ join sep ws) :
    c ∈ sep ∨ ∃ w ∈ ws, c ∈ w := by
  induction ws with
  | nil => cases member
  | cons w ws ih =>
      cases ws with
      | nil => exact .inr ⟨w, List.mem_cons_self, member⟩
      | cons v ws =>
          rw [join, List.append_assoc, List.mem_append, List.mem_append] at member
          rcases member with inWord | between | later
          · exact .inr ⟨w, List.mem_cons_self, inWord⟩
          · exact .inl between
          · rcases ih later with between | ⟨u, inRest, inWord⟩
            · exact .inl between
            · exact .inr ⟨u, List.mem_cons_of_mem w inRest, inWord⟩

/-! ## Words -/

theorem words_cons_of_blank {c : Char} (blank : isBlank c = true) (t : Text) :
    words (c :: t) = words t := by
  cases t with
  | nil => simp [words, blank]
  | cons d t => simp [words, blank]

theorem words_of_solid {w : Text} (nonempty : w ≠ []) (solid : ∀ c ∈ w, isBlank c = false) :
    words w = [w] := by
  induction w with
  | nil => exact absurd rfl nonempty
  | cons c w ih =>
      cases w with
      | nil => simp [words, solid c]
      | cons d w =>
          have rest := ih (by simp) fun e member => solid e (List.mem_cons_of_mem c member)
          simp [words, solid c, solid d, rest]

theorem words_append {w : Text} (nonempty : w ≠ []) (solid : ∀ c ∈ w, isBlank c = false) (t : Text) :
    words (w ++ ' ' :: t) = w :: words t := by
  induction w with
  | nil => exact absurd rfl nonempty
  | cons c w ih =>
      have blank : isBlank ' ' = true := rfl
      cases w with
      | nil =>
          rw [List.singleton_append, words, words_cons_of_blank blank]
          simp [solid c, blank]
      | cons d w =>
          have rest := ih (by simp) fun e member => solid e (List.mem_cons_of_mem c member)
          rw [List.cons_append] at rest
          simp [words, solid c, solid d, rest]

theorem words_join {ws : List Text} (solid : ∀ w ∈ ws, w ≠ [] ∧ ∀ c ∈ w, isBlank c = false) :
    words (join [' '] ws) = ws := by
  induction ws with
  | nil => rfl
  | cons w ws ih =>
      obtain ⟨nonempty, first⟩ := solid w List.mem_cons_self
      cases ws with
      | nil => exact words_of_solid nonempty first
      | cons v ws =>
          rw [join, List.append_assoc, List.singleton_append, words_append nonempty first,
            ih fun u member => solid u (List.mem_cons_of_mem w member)]

theorem trimEnd_join {ws : List Text} (solid : ∀ w ∈ ws, w ≠ [] ∧ ∀ c ∈ w, isBlank c = false) :
    trimEnd (join [' '] ws) = join [' '] ws := by
  have lastSolid : ∀ w ∈ ws, w.getLast?.any isBlank = false := by
    intro w member
    rw [Option.any_eq_false]
    intro c found
    simp [(solid w member).2 c (List.mem_of_getLast? found)]
  induction ws with
  | nil => rfl
  | cons w ws ih =>
      have first := lastSolid w List.mem_cons_self
      cases ws with
      | nil => simpa [join, trimEnd] using trimEnd_append first []
      | cons v ws =>
          have rest := ih (fun u member => solid u (List.mem_cons_of_mem w member))
            fun u member => lastSolid u (List.mem_cons_of_mem w member)
          have filled : join [' '] (v :: ws) ≠ [] := by
            have nonempty := (solid v (by simp)).1
            cases ws <;> simp [join, nonempty]
          rw [join, List.append_assoc, trimEnd_append first, List.singleton_append, trimEnd_cons, rest]
          simp [filled]

end SuiteAudit.Text
