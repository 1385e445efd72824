import SuiteAudit.Proofs.Text.Lines

/-!
# Layouts of a text

A text is laid out anew when each of its lines gets other white space around it. What is read from lines
without regard to the white space around them and to a blank line at the end is the same in all layouts
(`read_relayout`).
-/

namespace SuiteAudit.Text

/-! ## Pieces -/

theorem split_ne_nil (c : Char) (t : Text) : split c t ≠ [] := by
  cases t with
  | nil => simp [split]
  | cons d t =>
      rw [split]
      split
      · simp
      · split <;> simp

theorem not_mem_of_mem_split {c : Char} {t p : Text} (member : p ∈ split c t) : c ∉ p := by
  fun_induction split c t generalizing p with
  | case1 =>
      obtain rfl := List.mem_singleton.mp member
      exact List.not_mem_nil
  | case2 t ih =>
      rcases List.mem_cons.mp member with rfl | later
      · exact List.not_mem_nil
      · exact ih later
  | case3 d t other none ih => exact absurd none (split_ne_nil c t)
  | case4 d t other first rest found ih =>
      rcases List.mem_cons.mp member with rfl | later
      · have below : c ∉ first := ih (by simp [found])
        simp [Ne.symm other, below]
      · exact ih (by simp [found, later])

theorem split_append {c : Char} {p : Text} (absent : c ∉ p) (t : Text) :
    split c (p ++ c :: t) = p :: split c t := by
  induction p with
  | nil => simp [split]
  | cons d p ih =>
      obtain ⟨other, absent⟩ := List.ne_and_not_mem_of_not_mem_cons absent
      simp [split, Ne.symm other, ih absent]

theorem split_of_not_mem {c : Char} {p : Text} (absent : c ∉ p) : split c p = [p] := by
  induction p with
  | nil => rfl
  | cons d p ih =>
      obtain ⟨other, absent⟩ := List.ne_and_not_mem_of_not_mem_cons absent
      simp [split, Ne.symm other, ih absent]

theorem split_join {c : Char} {ps : List Text} (nonempty : ps ≠ []) (absent : ∀ p ∈ ps, c ∉ p) :
    split c (join [c] ps) = ps := by
  induction ps with
  | nil => exact absurd rfl nonempty
  | cons p ps ih =>
      have first := absent p List.mem_cons_self
      cases ps with
      | nil => exact split_of_not_mem first
      | cons q ps =>
          rw [join, List.append_assoc, List.singleton_append, split_append first,
            ih (by simp) fun r member => absent r (List.mem_cons_of_mem p member)]

theorem join_append {sep : Text} {ps qs : List Text} (nonempty : ps ≠ []) (more : qs ≠ []) :
    join sep (ps ++ qs) = join sep ps ++ sep ++ join sep qs := by
  induction ps with
  | nil => exact absurd rfl nonempty
  | cons p ps ih =>
      cases ps with
      | nil =>
          obtain ⟨q, qs, rfl⟩ := List.exists_cons_of_ne_nil more
          rfl
      | cons p' ps => simpa [join] using ih (List.cons_ne_nil p' ps)

theorem join_split (c : Char) (t : Text) : join [c] (split c t) = t := by
  fun_induction split c t with
  | case1 => rfl
  | case2 t ih =>
      obtain ⟨q, qs, found⟩ := List.exists_cons_of_ne_nil (split_ne_nil c t)
      rw [found] at ih ⊢
      simp [join, ih]
  | case3 d t other none ih => exact absurd none (split_ne_nil c t)
  | case4 d t other p ps found ih =>
      rw [found] at ih
      rw [← ih]
      cases ps <;> rfl

/-! ## White space around a line -/

theorem trimStart_append_of_blank {s : Text} (blank : ∀ c ∈ s, isBlank c = true) (t : Text) :
    trimStart (s ++ t) = trimStart t := by
  rw [trimStart, List.dropWhile_append_of_pos blank, trimStart]

theorem trimStart_append_allBlank {space : Text} (blank : allBlank space = true) (t : Text) :
    trimStart (space ++ t) = trimStart t := trimStart_append_of_blank (List.all_eq_true.mp blank) t

theorem trimEnd_append_of_blank (t : Text) {s : Text} (blank : ∀ c ∈ s, isBlank c = true) :
    trimEnd (t ++ s) = trimEnd t := by
  have back : ∀ c ∈ s.reverse, isBlank c = true := fun c member => blank c (List.mem_reverse.mp member)
  rw [trimEnd, List.reverse_append, List.dropWhile_append_of_pos back, trimEnd]

theorem trim_between {left right : Text} (blank : ∀ c ∈ left, isBlank c = true)
    (blank' : ∀ c ∈ right, isBlank c = true) (t : Text) : trim (left ++ t ++ right) = trim t := by
  rw [trim, List.append_assoc, trimStart_append_of_blank blank, ← trimStart_trimEnd,
    trimEnd_append_of_blank t blank', trimStart_trimEnd, ← trim]

/-- White space to the left and to the right of a line. -/
structure Margin where
  left : Text
  right : Text
  blank : ∀ c ∈ left ++ right, isBlank c = true
  oneLine : '\n' ∉ left ++ right

namespace Margin

/-- The line between the margins, in place of the white space around it. -/
def around (m : Margin) (line : Text) : Text := m.left ++ (trim line ++ m.right)

theorem trim_around (m : Margin) (line : Text) : trim (m.around line) = trim line := by
  have left : ∀ c ∈ m.left, isBlank c = true := fun c member =>
    m.blank c (List.mem_append_left m.right member)
  have right : ∀ c ∈ m.right, isBlank c = true := fun c member =>
    m.blank c (List.mem_append_right m.left member)
  rw [around, ← List.append_assoc, trim_between left right, trim_trim]

theorem not_mem_around (m : Margin) {line : Text} (oneLine : '\n' ∉ line) : '\n' ∉ m.around line := by
  have trimmed : '\n' ∉ trim line := fun member => oneLine ((trim_isInfix line).subset member)
  have margins := m.oneLine
  simp only [around, List.mem_append, not_or] at margins ⊢
  exact ⟨margins.1, trimmed, margins.2⟩

end Margin

/-! ## Layouts -/

/-- The text with other white space around its lines. Here a line goes from one line feed to the next,
so that a carriage return before the line feed is part of the white space. -/
def relayout (margin : Nat → Margin) (t : Text) : Text :=
  join ['\n'] ((split '\n' t).mapIdx fun i line => (margin i).around line)

theorem map_trim_split_relayout (margin : Nat → Margin) (t : Text) :
    (split '\n' (relayout margin t)).map trim = (split '\n' t).map trim := by
  have oneLine : ∀ line ∈ (split '\n' t).mapIdx fun i line => (margin i).around line, '\n' ∉ line := by
    intro line member
    obtain ⟨i, bound, rfl⟩ := List.mem_mapIdx.mp member
    exact (margin i).not_mem_around (not_mem_of_mem_split (List.getElem_mem bound))
  have nonempty : ((split '\n' t).mapIdx fun i line => (margin i).around line) ≠ [] := by
    simpa using split_ne_nil '\n' t
  rw [relayout, split_join nonempty oneLine]
  apply List.ext_getElem
  · simp
  · intro i _ _
    simp [(margin i).trim_around]

theorem lines_eq_nil {t : Text} (none : lines t = []) : t = [] := by
  fun_induction lines t with
  | case1 => rfl
  | case2 => cases none
  | case3 => cases none
  | case4 => cases none
  | case5 => cases none

/-- The lines of a text are its pieces, but for their ends and an empty last one. -/
theorem map_trimEnd_split (t : Text) :
    (split '\n' t).map trimEnd = (lines t).map trimEnd ∨
      (split '\n' t).map trimEnd = (lines t).map trimEnd ++ [[]] := by
  fun_induction lines t with
  | case1 => exact .inr rfl
  | case2 t ih =>
      have cut : split '\n' ('\r' :: '\n' :: t) = ['\r'] :: split '\n' t := by simp [split]
      have ending : trimEnd ['\r'] = trimEnd [] := rfl
      rw [cut, List.map_cons, List.map_cons, ending]
      exact ih.imp (congrArg _) (congrArg _)
  | case3 t ih =>
      have cut : split '\n' ('\n' :: t) = [] :: split '\n' t := by simp [split]
      rw [cut, List.map_cons, List.map_cons]
      exact ih.imp (congrArg _) (congrArg _)
  | case4 c t _ other none _ =>
      obtain rfl := lines_eq_nil none
      have feed : c ≠ '\n' := other
      exact .inl (by simp [split, feed])
  | case5 c t _ other first rest found ih =>
      obtain ⟨piece, pieces, cut⟩ := List.exists_cons_of_ne_nil (split_ne_nil '\n' t)
      have feed : c ≠ '\n' := other
      have cut' : split '\n' (c :: t) = (c :: piece) :: pieces := by simp [split, feed, cut]
      rw [found, cut] at ih
      rw [cut']
      simp only [List.map_cons, List.cons_append, List.cons.injEq] at ih ⊢
      have longer (same : trimEnd piece = trimEnd first) : trimEnd (c :: piece) = trimEnd (c :: first) := by
        rw [trimEnd_cons, trimEnd_cons, same]
      exact ih.imp (fun h => ⟨longer h.1, h.2⟩) fun h => ⟨longer h.1, h.2⟩

theorem map_trim_split (t : Text) :
    (split '\n' t).map trim = (lines t).map trim ∨
      (split '\n' t).map trim = (lines t).map trim ++ [[]] := by
  have trim_eq (ls : List Text) : ls.map trim = (ls.map trimEnd).map trimStart := by
    simp [trim, trimStart_trimEnd]
  rw [trim_eq, trim_eq]
  refine (map_trimEnd_split t).imp (congrArg _) fun pieces => ?_
  rw [pieces, List.map_append]
  rfl

/-! ## Readers of lines

A reader that overlooks the white space around lines, and a blank line at the end, reads the pieces of a text
between its line feeds. -/

section Readers

variable {α : Type} (read : List Text → α)
  (trimmed : ∀ ls, (∀ line ∈ ls, '\n' ∉ line) → read (ls.map trim) = read ls)
  (blank : ∀ ls, read (ls ++ [[]]) = read ls)

include trimmed blank

theorem read_lines (t : Text) : read (lines t) = read ((split '\n' t).map trim) := by
  rw [← trimmed (lines t) fun line => not_mem_of_mem_lines]
  rcases map_trim_split t with same | more
  · rw [same]
  · rw [more, blank]

theorem read_relayout (margin : Nat → Margin) (t : Text) :
    read (lines (relayout margin t)) = read (lines t) := by
  rw [read_lines read trimmed blank, read_lines read trimmed blank t, map_trim_split_relayout]

theorem read_join {ls : List Text} (oneLine : ∀ line ∈ ls, '\n' ∉ line) :
    read (lines (join ['\n'] ls)) = read ls := by
  cases ls with
  | nil => rfl
  | cons line ls =>
      rw [read_lines read trimmed blank, split_join (List.cons_ne_nil line ls) oneLine,
        trimmed (line :: ls) oneLine]

end Readers

end SuiteAudit.Text
