import Mathlib.Data.List.Forall2
import SuiteAudit.Feature.Line
import SuiteAudit.Proofs.Text.Layout

/-!
# The grammar of table rows

A row is a bar and then cell after cell, each with white space around it and a bar behind it. Reading gives back the
cells that were written, so no column is lost or gained at either end (`cells_of_writesRow`), and every line that
counts as a row is written in this way (`writesRow_cells`).
-/

namespace SuiteAudit

open Text

/-! ## White space around a text -/

namespace Text

/-- The second text is the first one with white space on both sides, perhaps none. -/
def Pads (t padded : Text) : Prop :=
  ∃ left right, allBlank left = true ∧ allBlank right = true ∧ padded = left ++ t ++ right

theorem Pads.trim_eq {t padded : Text} (pads : Pads t padded) : trim padded = trim t := by
  obtain ⟨left, right, blank, blank', rfl⟩ := pads
  exact trim_between (List.all_eq_true.mp blank) (List.all_eq_true.mp blank') t

theorem Pads.not_mem {c : Char} (solid : isBlank c = false) {t padded : Text} (pads : Pads t padded)
    (absent : c ∉ t) : c ∉ padded := by
  obtain ⟨left, right, blank, blank', rfl⟩ := pads
  simp only [List.mem_append, not_or]
  exact ⟨⟨not_mem_of_allBlank solid blank, absent⟩, not_mem_of_allBlank solid blank'⟩

theorem pads_trim (t : Text) : Pads (trim t) t := by
  obtain ⟨left, blank, start⟩ := exists_trimStart t
  obtain ⟨right, stop, blank'⟩ := exists_trimEnd_append (trimStart t)
  refine ⟨left, right, blank, List.all_eq_true.mpr blank', ?_⟩
  rw [List.append_assoc, trim, ← stop, ← start]

end Text

namespace Line

/-! ## Bars -/

/-- A bar before the parts and one after each. -/
def barred (parts : List Text) : Text := '|' :: parts.flatMap fun part => part ++ ['|']

theorem barred_eq_join {parts : List Text} (filled : parts ≠ []) :
    barred parts = '|' :: (join ['|'] parts ++ ['|']) := by
  have closed : (parts.flatMap fun part => part ++ ['|']) = join ['|'] parts ++ ['|'] := by
    induction parts with
    | nil => exact absurd rfl filled
    | cons part parts ih =>
        cases parts with
        | nil => simp [join]
        | cons next parts =>
            rw [List.flatMap_cons, ih (List.cons_ne_nil next parts), join]
            simp
  rw [barred, closed]

theorem trim_between_bars (inner : Text) : trim ('|' :: (inner ++ ['|'])) = '|' :: (inner ++ ['|']) :=
  List.rdropWhile_concat_neg isBlank ('|' :: inner) '|' (by decide)

/-- One bar is taken from each end, and what is left is cut at the others. -/
theorem cells_of_trim {row inner : Text} (body : trim row = '|' :: (inner ++ ['|'])) :
    cells row = (split '|' inner).map trim := by
  have start : after? "|" ('|' :: (inner ++ ['|'])) = some (inner ++ ['|']) := after?_eq_some.mpr rfl
  have stop : before? "|" (inner ++ ['|']) = some inner := before?_eq_some.mpr rfl
  simp only [cells, body, start, stop, Option.getD_some]

theorem trim_of_isRow {line : Text} (row : isRow line = true) :
    ∃ inner, trim line = '|' :: (inner ++ ['|']) := by
  unfold isRow at row
  split at row
  case h_1 rest start =>
    split at row
    case h_1 inner stop =>
      refine ⟨inner.reverse, ?_⟩
      have turned := congrArg List.reverse stop
      rw [List.reverse_reverse, List.reverse_cons] at turned
      rw [trim, start, trimEnd_cons_of_not_blank (by decide), turned]
    case h_2 => cases row
  case h_2 => cases row

/-! ## Rows -/

/-- The line is a row with the given cells, whatever white space stands around each of them and around the row. -/
structure WritesRow (row : Text) (cells : List Text) : Prop where
  filled : cells ≠ []
  trimmed : ∀ cell ∈ cells, trim cell = cell
  unbarred : ∀ cell ∈ cells, '|' ∉ cell
  written : ∃ parts, List.Forall₂ Pads cells parts ∧ Pads (barred parts) row

theorem map_trim_of_pads {cells parts : List Text} (padded : List.Forall₂ Pads cells parts)
    (trimmed : ∀ cell ∈ cells, trim cell = cell) : parts.map trim = cells := by
  induction padded with
  | nil => rfl
  | cons pads _ ih =>
      obtain ⟨first, others⟩ := List.forall_mem_cons.mp trimmed
      rw [List.map_cons, pads.trim_eq, first, ih others]

theorem not_mem_of_pads {cells parts : List Text} (padded : List.Forall₂ Pads cells parts)
    (unbarred : ∀ cell ∈ cells, '|' ∉ cell) : ∀ part ∈ parts, '|' ∉ part := by
  induction padded with
  | nil => exact List.forall_mem_nil _
  | cons pads _ ih =>
      obtain ⟨first, others⟩ := List.forall_mem_cons.mp unbarred
      exact List.forall_mem_cons.mpr ⟨pads.not_mem (by decide) first, ih others⟩

/-- The cells of a row are read as they were written, all of them and in their order, empty ones included. -/
theorem cells_of_writesRow {row : Text} {columns : List Text} (written : WritesRow row columns) :
    cells row = columns := by
  obtain ⟨filled, trimmed, unbarred, parts, padded, around⟩ := written
  have some : parts ≠ [] := by
    rintro rfl
    exact filled (List.forall₂_nil_right_iff.mp padded)
  have body : trim row = '|' :: (join ['|'] parts ++ ['|']) := by
    rw [around.trim_eq, barred_eq_join some, trim_between_bars]
  calc
    cells row = (split '|' (join ['|'] parts)).map trim := cells_of_trim body
    _ = parts.map trim := by rw [split_join some (not_mem_of_pads padded unbarred)]
    _ = columns := map_trim_of_pads padded trimmed

/-- The first and the third column are empty, and there is white space of several kinds. -/
def wideRow : Text := "\u2003||\u3000a b\t|\n| # |\r"

theorem cells_of_writesRow_wideRow :
    WritesRow wideRow ["", "a b", "", "#"] ∧ cells wideRow = ["", "a b", "", "#"] := by
  have written : WritesRow wideRow ["", "a b", "", "#"] := by
    refine ⟨by decide, by decide, by decide, ["", "\u3000a b\t", "\n", " # "], ?_, ?_⟩
    · refine .cons ⟨[], [], ?_⟩ (.cons ⟨"\u3000", "\t", ?_⟩ (.cons ⟨[], "\n", ?_⟩ (.cons ⟨" ", " ", ?_⟩ .nil)))
      all_goals decide
    · exact ⟨"\u2003", "\r", by decide⟩
  exact ⟨written, cells_of_writesRow written⟩

/-- A line that counts as a row is written from the cells that are read from it. -/
theorem writesRow_cells {line : Text} (row : isRow line = true) : WritesRow line (cells line) := by
  obtain ⟨inner, body⟩ := trim_of_isRow row
  rw [cells_of_trim body]
  refine ⟨by simpa using split_ne_nil '|' inner, ?_, ?_, split '|' inner, ?_, ?_⟩
  · intro cell member
    obtain ⟨part, -, rfl⟩ := List.mem_map.mp member
    exact trim_trim part
  · intro cell member
    obtain ⟨part, cut, rfl⟩ := List.mem_map.mp member
    exact fun bar => not_mem_of_mem_split cut ((trim_isInfix part).subset bar)
  · rw [List.forall₂_map_left_iff, List.forall₂_same]
    exact fun part _ => pads_trim part
  · rw [barred_eq_join (split_ne_nil '|' inner), join_split, ← body]
    exact pads_trim line

end Line

end SuiteAudit
