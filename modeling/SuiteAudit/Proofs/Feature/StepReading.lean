import Mathlib.Algebra.Ring.Parity
import Mathlib.Data.List.Induction
import SuiteAudit.Proofs.Feature.ExampleBlocks
import SuiteAudit.Proofs.SortedMap

/-!
# The lines among the steps

Every line among the steps of a scenario has one role, which depends on the fences above it. An entry
becomes a step, and a row goes below the last entry above it; only rows above all entries are left out
(`withSteps_accounts`).
-/

namespace SuiteAudit

open Text

namespace Line

theorem isRow_trim (line : Text) : isRow (trim line) = isRow line := by
  rw [isRow, isRow, trimStart_trim]
  rcases trimStart_cases line with empty | ⟨c, rest, found, solid⟩
  · rw [empty]
    rfl
  · rw [found, trimEnd_cons_of_not_blank solid]
    by_cases bar : c = '|'
    · subst bar
      simp only [trimEnd_trimEnd]
    · simp [bar]

/-- The kinds of lines that add no step are told apart by how they start. -/
theorem kinds_apart (line : Text) :
    (isFence line = true → allBlank line = false ∧ startsWithTag line = false ∧ isRow line = false) ∧
      (isRow line = true → allBlank line = false ∧ startsWithTag line = false) ∧
      (startsWithTag line = true → allBlank line = false) := by
  refine ⟨fun fence => ?_, fun row => ?_, fun tag => ?_⟩
  · obtain ⟨-, tags, -, -, filled⟩ := kind_of_isFence fence
    refine ⟨filled, (Bool.or_eq_false_iff.mp tags).1, ?_⟩
    obtain ⟨rest, start | start⟩ := trimStart_of_isFence fence
    · rw [isRow, start]
      rfl
    · rw [isRow, start]
      rfl
  · obtain ⟨tags, -, filled⟩ := kind_of_isRow row
    exact ⟨filled, (Bool.or_eq_false_iff.mp tags).1⟩
  · refine allBlank_of_trimStart fun empty => ?_
    rw [startsWithTag, afterTag?, empty] at tag
    cases tag

end Line

namespace Feature

/-! ## Roles -/

/-- What a line among the steps can be. -/
inductive LineRole
  | fence
  /-- The line stands in a doc string. -/
  | quoted
  | blank
  | tags
  | row
  /-- The line is a step or a comment. -/
  | entry
deriving DecidableEq, Repr

/-- How many of the lines start or end a doc string. -/
def fences (lines : List NumberedLine) : Nat := lines.countP fun l => Line.isFence l.text

/-- The line has the role, if it stands below the lines `above`. A fence is one wherever it stands; all
else in a doc string is quoted, whatever it looks like. -/
def LineRole.Fits (above : List NumberedLine) (l : NumberedLine) : LineRole → Prop
  | fence => Line.isFence l.text = true
  | quoted => Odd (fences above) ∧ Line.isFence l.text = false
  | blank => Even (fences above) ∧ allBlank l.text = true
  | tags => Even (fences above) ∧ Line.startsWithTag l.text = true
  | row => Even (fences above) ∧ Line.isRow l.text = true
  | entry => Even (fences above) ∧ Line.isFence l.text = false ∧ allBlank l.text = false ∧
      Line.startsWithTag l.text = false ∧ Line.isRow l.text = false

instance (above : List NumberedLine) (l : NumberedLine) :
    (role : LineRole) → Decidable (role.Fits above l)
  | .fence => inferInstanceAs (Decidable (_ = _))
  | .quoted | .blank | .tags | .row | .entry => inferInstanceAs (Decidable (_ ∧ _))

theorem exists_fits (above : List NumberedLine) (l : NumberedLine) :
    ∃ role : LineRole, role.Fits above l := by
  cases fence : Line.isFence l.text with
  | true => exact ⟨.fence, fence⟩
  | false =>
      rcases Nat.even_or_odd (fences above) with closed | opened
      · cases blank : allBlank l.text with
        | true => exact ⟨.blank, closed, blank⟩
        | false =>
            cases tag : Line.startsWithTag l.text with
            | true => exact ⟨.tags, closed, tag⟩
            | false =>
                cases row : Line.isRow l.text with
                | true => exact ⟨.row, closed, row⟩
                | false => exact ⟨.entry, closed, fence, blank, tag, row⟩
      · exact ⟨.quoted, opened, fence⟩

theorem LineRole.Fits.unique {above : List NumberedLine} {l : NumberedLine} {role other : LineRole}
    (fits : role.Fits above l) (fits' : other.Fits above l) : role = other := by
  obtain ⟨fenced, barred, tagged⟩ := Line.kinds_apart l.text
  cases role <;> cases other <;> simp_all [LineRole.Fits, ← Nat.not_even_iff_odd]

theorem LineRole.Fits.eq_iff {above : List NumberedLine} {l : NumberedLine} {role : LineRole}
    (fits : role.Fits above l) (other : LineRole) : other.Fits above l ↔ other = role := by
  constructor
  · exact fun fits' => fits'.unique fits
  · rintro rfl
    exact fits

theorem existsUnique_fits (above : List NumberedLine) (l : NumberedLine) :
    ∃! role : LineRole, role.Fits above l := by
  obtain ⟨role, fits⟩ := exists_fits above l
  exact ⟨role, fits, fun other fits' => fits'.unique fits⟩

/-! ## Entries and rows -/

/-- A line with the lines above it. -/
structure Place where
  above : List NumberedLine
  line : NumberedLine

def places (lines : List NumberedLine) : List Place := lines.zipIdx.map fun (l, i) => ⟨lines.take i, l⟩

def placesOf (role : LineRole) (lines : List NumberedLine) : List Place :=
  (places lines).filter fun p => role.Fits p.above p.line

def entries (lines : List NumberedLine) : List NumberedLine := (placesOf .entry lines).map Place.line

def lastEntry? (lines : List NumberedLine) : Option Text :=
  (entries lines).getLast?.map fun l => trim l.text

def rows (lines : List NumberedLine) : List Text := (placesOf .row lines).map fun p => trim p.line.text

/-- The rows whose last entry above is the given one, or that have none above. -/
def rowsBelow (entry : Option Text) (lines : List NumberedLine) : List Text :=
  ((placesOf .row lines).filter fun p => lastEntry? p.above = entry).map fun p => trim p.line.text

theorem places_concat (lines : List NumberedLine) (l : NumberedLine) :
    places (lines ++ [l]) = places lines ++ [⟨lines, l⟩] := by
  have earlier : (lines.zipIdx.map fun (l', i) => (⟨(lines ++ [l]).take i, l'⟩ : Place)) = places lines := by
    refine List.map_congr_left fun e member => ?_
    obtain ⟨l', i⟩ := e
    have bound : i < lines.length := List.snd_lt_of_mem_zipIdx member
    simp only [List.take_append_of_le_length (Nat.le_of_lt bound)]
  rw [places, List.zipIdx_append, List.map_append, earlier]
  simp

section Concat

variable {lines : List NumberedLine} {l : NumberedLine} {role : LineRole}

theorem placesOf_concat (fits : role.Fits lines l) (other : LineRole) :
    placesOf other (lines ++ [l]) = placesOf other lines ++ if other = role then [⟨lines, l⟩] else [] := by
  rw [placesOf, places_concat, List.filter_append, List.filter_singleton, Bool.cond_decide, placesOf]
  simp only [fits.eq_iff]

theorem entries_concat_of_ne (fits : role.Fits lines l) (ne : .entry ≠ role) :
    entries (lines ++ [l]) = entries lines := by
  rw [entries, placesOf_concat fits, if_neg ne, List.append_nil, entries]

theorem rows_concat_of_ne (fits : role.Fits lines l) (ne : .row ≠ role) :
    rows (lines ++ [l]) = rows lines ∧ ∀ entry, rowsBelow entry (lines ++ [l]) = rowsBelow entry lines := by
  have kept : placesOf .row (lines ++ [l]) = placesOf .row lines := by
    rw [placesOf_concat fits, if_neg ne, List.append_nil]
  refine ⟨?_, fun entry => ?_⟩
  · rw [rows, kept, rows]
  · rw [rowsBelow, kept, rowsBelow]

theorem entries_concat (fits : LineRole.entry.Fits lines l) :
    entries (lines ++ [l]) = entries lines ++ [l] := by
  rw [entries, placesOf_concat fits, if_pos rfl, List.map_append, entries]
  rfl

theorem rows_concat (fits : LineRole.row.Fits lines l) : rows (lines ++ [l]) = rows lines ++ [trim l.text] := by
  rw [rows, placesOf_concat fits, if_pos rfl, List.map_append, rows]
  rfl

theorem rowsBelow_concat (fits : LineRole.row.Fits lines l) (entry : Option Text) :
    rowsBelow entry (lines ++ [l]) =
      rowsBelow entry lines ++ if lastEntry? lines = entry then [trim l.text] else [] := by
  rw [rowsBelow, placesOf_concat fits, if_pos rfl, List.filter_append, List.filter_singleton,
    Bool.cond_decide, List.map_append, rowsBelow]
  split <;> rfl

theorem rowsBelow_concat_of_ne (fits : LineRole.row.Fits lines l) {entry : Option Text}
    (ne : lastEntry? lines ≠ entry) : rowsBelow entry (lines ++ [l]) = rowsBelow entry lines := by
  rw [rowsBelow_concat fits, if_neg ne, List.append_nil]

end Concat

/-! ## Reading by roles -/

namespace StepReading

/-- What a line does to what is read, by its role. -/
def advance (r : StepReading) (l : NumberedLine) : LineRole → StepReading
  | .fence => { r with inDocString := !r.inDocString }
  | .quoted | .blank | .tags => r
  | .row => match r.steps with
    | [] => r
    | (step, _) :: _ =>
      { r with tables := r.tables.alter Text.order step fun rows => rows.getD [] ++ [trim l.text] }
  | .entry => { r with steps := (trim l.text, l.number) :: r.steps }

theorem read_of_fits {r : StepReading} {lines : List NumberedLine} {l : NumberedLine} {role : LineRole}
    (opened : r.inDocString = true ↔ Odd (fences lines)) (fits : role.Fits lines l) :
    r.read l = r.advance l role := by
  have plain (ne : LineRole.fence ≠ role) : Line.isFence l.text = false := by
    rw [← Bool.not_eq_true]
    exact mt (fits.eq_iff .fence).mp ne
  have closed (even : Even (fences lines)) : r.inDocString = false := by
    rw [← Bool.not_eq_true, opened, Nat.not_odd_iff_even]
    exact even
  simp only [read, Line.isFence_trim, Line.startsWithTag_trim, Line.isRow_trim,
    ← Line.allBlank_eq_isEmpty_trim]
  cases role with
  | fence =>
      have fence : Line.isFence l.text = true := fits
      simp [advance, fence]
  | quoted => simp [advance, fits.2, opened.mpr fits.1]
  | blank => simp [advance, plain, fits.2]
  | tags => simp [advance, plain, fits.2]
  | row =>
      obtain ⟨filled, untagged⟩ := (Line.kinds_apart l.text).2.1 fits.2
      cases steps : r.steps <;> simp [advance, plain, closed fits.1, filled, untagged, fits.2, steps]
  | entry =>
      obtain ⟨even, fence, filled, untagged, other⟩ := fits
      simp [advance, closed even, fence, filled, untagged, other]

/-- What is read of the steps says of each line what its role asks for. -/
structure Follows (r : StepReading) (lines : List NumberedLine) : Prop where
  steps : r.steps.reverse = (entries lines).map fun l => (trim l.text, l.number)
  ordered : Sorted.Ordered Text.order r.tables
  tables : ∀ step, Sorted.get? Text.order step r.tables =
    if rowsBelow (some step) lines = [] then none else some (rowsBelow (some step) lines)
  stored : (rowsBelow none lines ++ r.tables.flatMap Prod.snd).Perm (rows lines)

namespace Follows

variable {r : StepReading} {lines : List NumberedLine} {l : NumberedLine}

/-- The step under which a row is stored is the last entry above it. -/
theorem lastEntry?_eq (follows : r.Follows lines) : lastEntry? lines = r.steps.head?.map Prod.fst := by
  have steps := congrArg List.getLast? follows.steps
  rw [List.getLast?_reverse, List.getLast?_map] at steps
  rw [steps, lastEntry?, Option.map_map]
  rfl

theorem other (follows : r.Follows lines) {role : LineRole} (fits : role.Fits lines l)
    (noEntry : .entry ≠ role) (noRow : .row ≠ role) {r' : StepReading} (steps : r'.steps = r.steps)
    (tables : r'.tables = r.tables) : r'.Follows (lines ++ [l]) := by
  obtain ⟨rows_eq, below_eq⟩ := rows_concat_of_ne fits noRow
  refine ⟨?_, ?_, fun step => ?_, ?_⟩
  · rw [steps, entries_concat_of_ne fits noEntry, follows.steps]
  · rw [tables]
    exact follows.ordered
  · rw [tables, below_eq, follows.tables]
  · rw [tables, below_eq, rows_eq]
    exact follows.stored

theorem entry (follows : r.Follows lines) (fits : LineRole.entry.Fits lines l) :
    (r.advance l .entry).Follows (lines ++ [l]) := by
  obtain ⟨rows_eq, below_eq⟩ := rows_concat_of_ne fits (by decide)
  refine ⟨?_, follows.ordered, fun step => ?_, ?_⟩
  · rw [entries_concat fits, List.map_append, ← follows.steps]
    exact List.reverse_cons
  · rw [below_eq]
    exact follows.tables step
  · rw [below_eq, rows_eq]
    exact follows.stored

/-- A row with no entry above it is left out. -/
theorem droppedRow (follows : r.Follows lines) (fits : LineRole.row.Fits lines l) (first : r.steps = []) :
    r.Follows (lines ++ [l]) := by
  have last : lastEntry? lines = none := by
    rw [follows.lastEntry?_eq, first]
    rfl
  refine ⟨?_, follows.ordered, fun step => ?_, ?_⟩
  · rw [entries_concat_of_ne fits (by decide), follows.steps]
  · have other : lastEntry? lines ≠ some step := by simp [last]
    rw [rowsBelow_concat_of_ne fits other, follows.tables]
  · have moved : ((rowsBelow none lines ++ [trim l.text]) ++ r.tables.flatMap Prod.snd).Perm
        ((rowsBelow none lines ++ r.tables.flatMap Prod.snd) ++ [trim l.text]) := by
      rw [List.append_assoc, List.append_assoc]
      exact List.perm_append_comm.append_left _
    rw [rowsBelow_concat fits, if_pos last, rows_concat fits]
    exact moved.trans (follows.stored.append_right _)

theorem storedRow (follows : r.Follows lines) (fits : LineRole.row.Fits lines l) {entry : Text}
    (last : lastEntry? lines = some entry) :
    StepReading.Follows
      { r with tables := r.tables.alter Text.order entry fun rows => rows.getD [] ++ [trim l.text] }
      (lines ++ [l]) := by
  refine ⟨?_, Sorted.alter_ordered _ _ follows.ordered, fun step => ?_, ?_⟩
  · rw [entries_concat_of_ne fits (by decide), follows.steps]
  · rw [Sorted.get?_alter follows.ordered]
    by_cases here : step = entry
    · subst here
      have filled : rowsBelow (some step) lines ++ [trim l.text] ≠ [] := by simp
      rw [if_pos Std.ReflCmp.compare_self, rowsBelow_concat fits, if_pos last, if_neg filled, follows.tables]
      split
      case isTrue empty =>
        rw [empty]
        rfl
      case isFalse => rfl
    · -- Steps that differ are different keys, and the rows of the other one stay.
      have differ : Text.order step entry ≠ .eq := fun same => here (Std.LawfulEqCmp.eq_of_compare same)
      have other : lastEntry? lines ≠ some step := by simp [last, Ne.symm here]
      rw [if_neg differ, rowsBelow_concat_of_ne fits other, follows.tables]
  · have other : lastEntry? lines ≠ none := by simp [last]
    have added := (Sorted.flatMap_alter_perm Text.order entry (trim l.text) r.tables).append_left
      (rowsBelow none lines)
    rw [rowsBelow_concat_of_ne fits other, rows_concat fits]
    rw [← List.append_assoc] at added
    exact added.trans (follows.stored.append_right _)

theorem row (follows : r.Follows lines) (fits : LineRole.row.Fits lines l) :
    (r.advance l .row).Follows (lines ++ [l]) := by
  cases steps : r.steps with
  | nil =>
      have same : r.advance l .row = r := by simp only [StepReading.advance, steps]
      rw [same]
      exact follows.droppedRow fits steps
  | cons first above =>
      have last : lastEntry? lines = some first.1 := by
        rw [follows.lastEntry?_eq, steps]
        rfl
      have stored := follows.storedRow fits last
      simpa only [StepReading.advance, steps] using stored

theorem advance (follows : r.Follows lines) {role : LineRole} (fits : role.Fits lines l) :
    (r.advance l role).Follows (lines ++ [l]) := by
  cases role with
  | fence => exact follows.other fits (by decide) (by decide) rfl rfl
  | quoted => exact follows.other fits (by decide) (by decide) rfl rfl
  | blank => exact follows.other fits (by decide) (by decide) rfl rfl
  | tags => exact follows.other fits (by decide) (by decide) rfl rfl
  | row => exact follows.row fits
  | entry => exact follows.entry fits

end Follows

theorem foldl_read_follows (lines : List NumberedLine) : (lines.foldl read {}).Follows lines := by
  induction lines using List.reverseRecOn with
  | nil => exact ⟨rfl, Sorted.ordered_nil, fun _ => rfl, List.Perm.refl _⟩
  | append_singleton lines l ih =>
      have opened : (lines.foldl read {}).inDocString = true ↔ Odd (fences lines) := by
        rw [← Nat.not_even_iff_odd, fences, ← foldl_read_inDocString lines {}]
        simp
      obtain ⟨role, fits⟩ := exists_fits lines l
      rw [List.foldl_append, List.foldl_cons, List.foldl_nil, read_of_fits opened fits]
      exact ih.advance fits

end StepReading

/-- Reading the steps of a scenario accounts for every line: it has one role, the entries are the steps
with their lines, the rows stored under a step are the rows whose last entry above is this step, and all
rows are stored but those above the first entry. -/
theorem withSteps_accounts (s : Scenario) (lines : List NumberedLine) :
    (∀ i : Fin lines.length, ∃! role : LineRole, role.Fits (lines.take i) (lines.get i)) ∧
      (withSteps s lines).steps = (entries lines).map (fun l => trim l.text) ∧
      (withSteps s lines).stepLines = (entries lines).map NumberedLine.number ∧
      (withSteps s lines).steps.length = (withSteps s lines).stepLines.length ∧
      Sorted.Ordered Text.order (withSteps s lines).tables ∧
      (∀ step, Sorted.get? Text.order step (withSteps s lines).tables =
        if rowsBelow (some step) lines = [] then none else some (rowsBelow (some step) lines)) ∧
      (rowsBelow none lines ++ (withSteps s lines).tables.flatMap Prod.snd).Perm (rows lines) := by
  have follows := StepReading.foldl_read_follows lines
  have steps : (withSteps s lines).steps = (entries lines).map fun l => trim l.text := by
    simp only [withSteps, follows.steps, List.map_map]
    rfl
  have numbers : (withSteps s lines).stepLines = (entries lines).map NumberedLine.number := by
    simp only [withSteps, follows.steps, List.map_map]
    rfl
  refine ⟨fun i => existsUnique_fits _ _, steps, numbers, ?_, follows.ordered, follows.tables,
    follows.stored⟩
  rw [steps, numbers, List.length_map, List.length_map]

end Feature

end SuiteAudit
