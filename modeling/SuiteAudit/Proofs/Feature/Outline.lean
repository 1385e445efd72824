import Mathlib.Data.List.Forall2
import Mathlib.Data.List.ProdSigma
import Mathlib.Data.List.TakeWhile
import SuiteAudit.Feature.Outline
import SuiteAudit.Order
import SuiteAudit.Proofs.Text.Scan

/-!
# Outlines and their examples

What an outline stands for, said without the way it is computed: which lines of an example table are rows and how
they are numbered (`ExampleRow.Table`), and what a step becomes when the cells of a row stand for its placeholders
(`Placeholder.Filled`). The table that is read is the one (`exampleTable_table`), and filling in a step gives the
other and nothing else (`filled_iff`).
-/

namespace SuiteAudit

open Text

/-! ## Example tables -/

namespace ExampleRow

/-- Whether a line below the header is a row: it is a comment, or it is not the header once more. -/
def counts (header : List Text) (line : Text) : Bool := Line.isComment line || Line.cells line != header

/-- The row on a line, with its number. A row that is commented out has no cells. -/
def ofLine (n : Nat) (line : Text) : ExampleRow :=
  ⟨n, if Line.isComment line then [] else Line.cells line, Line.isComment line⟩

theorem below_eq_mapIdx (header : List Text) (n : Nat) (lines : List Text) :
    below header n lines = (lines.filter (counts header)).mapIdx fun i line => ofLine (n + i) line := by
  induction lines generalizing n with
  | nil => rfl
  | cons line lines ih =>
      have shift : (fun i line => ofLine (n + 1 + i) line) = fun i line => ofLine (n + (i + 1)) line := by
        funext i line
        rw [Nat.add_assoc, Nat.add_comm 1]
      rw [below]
      split
      case isTrue commented =>
        rw [ih, List.filter_cons_of_pos (by simp [counts, commented]), List.mapIdx_cons, shift]
        simp [ofLine, commented]
      case isFalse plain =>
        split
        case isTrue same => rw [ih, List.filter_cons_of_neg (by simp [counts, plain, same])]
        case isFalse other =>
          rw [ih, List.filter_cons_of_pos (by simp [counts, other]), List.mapIdx_cons, shift]
          simp [ofLine, plain]

/-- The header of an example table and the rows below it. The header is the first line that is no comment; rows
are counted from one, those that are commented out too. -/
inductive Table : List Text → List Text → List ExampleRow → Prop
  | comments {lines : List Text} (commented : ∀ line ∈ lines, Line.isComment line = true) : Table lines [] []
  | rows {above below : List Text} {header : Text} (commented : ∀ line ∈ above, Line.isComment line = true)
      (plain : Line.isComment header = false) :
      Table (above ++ header :: below) (Line.cells header)
        ((below.filter (counts (Line.cells header))).mapIdx fun i line => ofLine (i + 1) line)

theorem Table.numbers {lines header : List Text} {rows : List ExampleRow} (table : Table lines header rows) :
    rows.Pairwise fun r r' => r.number < r'.number := by
  cases table with
  | comments => exact .nil
  | rows commented plain =>
      refine List.pairwise_iff_getElem.mpr fun i j _ _ less => ?_
      simpa [ofLine] using less

end ExampleRow

theorem Scenario.exampleTable_table (s : Scenario) :
    ExampleRow.Table s.examples s.exampleTable.1 s.exampleTable.2 := by
  have whole : s.examples.takeWhile Line.isComment ++ s.examples.dropWhile Line.isComment = s.examples :=
    List.takeWhile_append_dropWhile
  have commented : ∀ line ∈ s.examples.takeWhile Line.isComment, Line.isComment line = true :=
    fun line => List.mem_takeWhile_imp
  unfold exampleTable
  split
  case h_1 none =>
    rw [none, List.append_nil] at whole
    rw [whole] at commented
    exact .comments commented
  case h_2 header below found =>
    have plain : Line.isComment header = false := by
      have first := List.head?_dropWhile_not Line.isComment s.examples
      simpa [found] using first
    rw [found] at whole
    rw [← whole]
    simp only [ExampleRow.below_eq_mapIdx, Nat.add_comm 1]
    exact .rows commented plain

/-! ## Placeholders -/

namespace Placeholder

/-- What can stand between angle brackets as the name of a placeholder. -/
def IsName (name : Text) : Prop := name ≠ [] ∧ '<' ∉ name ∧ '>' ∉ name

def written (name : Text) : Text := '<' :: name ++ ['>']

def Plain (t : Text) : Prop := ∀ before name after, IsName name → t ≠ before ++ (written name ++ after)

def FirstColumn (header : List Text) (name : Text) (i : Nat) : Prop :=
  header[i]? = some name ∧ name ∉ header.take i

/-- What stands for a placeholder: the cell of the first column with its name, or the placeholder itself if
there is no such column or no cell in it. -/
inductive Value (header cells : List Text) (name : Text) : Text → Prop
  | cell {i : Nat} {t : Text} (column : FirstColumn header name i) (found : cells[i]? = some t) :
      Value header cells name t
  | kept (missing : ∀ i, FirstColumn header name i → cells[i]? = none) :
      Value header cells name (written name)

/-- The second text is the first one with its value for every placeholder. The text may be cut at any of its
placeholders, since no two of them overlap, and values are not read again. -/
inductive Filled (header cells : List Text) : Text → Text → Prop
  | plain {t : Text} (none : Plain t) : Filled header cells t t
  | placeholder {before before' name value after after' : Text} (named : IsName name)
      (stands : Value header cells name value) (left : Filled header cells before before')
      (right : Filled header cells after after') :
      Filled header cells (before ++ (written name ++ after)) (before' ++ (value ++ after'))

theorem name?_eq_some {t name : Text} :
    name? t = some name ↔ IsName name ∧ ∃ after, t = written name ++ after := by
  constructor
  · intro found
    unfold name? at found
    split at found
    case h_1 u =>
      dsimp only at found
      split at found
      case isTrue ends =>
        cases found
        obtain ⟨filled, closed⟩ : u.takeWhile (fun c => c != '<' && c != '>') ≠ [] ∧
            (u.drop (u.takeWhile fun c => c != '<' && c != '>').length).head? = some '>' := by
          simpa using ends
        obtain ⟨after, rest⟩ := List.head?_eq_some_iff.mp closed
        have whole := List.prefix_iff_eq_append.mp (List.takeWhile_prefix (l := u) fun c => c != '<' && c != '>')
        rw [rest] at whole
        refine ⟨⟨filled, fun bracket => ?_, fun bracket => ?_⟩, after, ?_⟩
        · simpa using List.mem_takeWhile_imp bracket
        · simpa using List.mem_takeWhile_imp bracket
        · nth_rewrite 1 [← whole]
          simp [written]
      case isFalse => cases found
    case h_2 => cases found
  · rintro ⟨⟨filled, opening, closing⟩, after, rfl⟩
    have inside : ∀ c ∈ name, (c != '<' && c != '>') = true := by
      intro c member
      have left : c ≠ '<' := fun same => opening (same ▸ member)
      have right : c ≠ '>' := fun same => closing (same ▸ member)
      simp [left, right]
    have cut : (name ++ '>' :: after).takeWhile (fun c => c != '<' && c != '>') = name := by
      rw [List.takeWhile_append_of_pos inside]
      simp
    simp [name?, written, cut, filled]

theorem name?_append_open (c : Char) (t rest : Text) : name? (c :: t ++ '<' :: rest) = name? (c :: t) := by
  ext name
  rw [name?_eq_some, name?_eq_some]
  refine and_congr_right fun ⟨_, opening, _⟩ => ⟨fun ⟨after, whole⟩ => ?_, fun ⟨after, whole⟩ => ?_⟩
  · rcases List.append_eq_append_iff.mp whole with ⟨m, longer, rest⟩ | ⟨m, shorter, -⟩
    · cases m with
      | nil => exact ⟨[], by simpa using longer.symm⟩
      | cons d m =>
          -- The bracket would stand inside the name.
          obtain ⟨rfl, -⟩ := List.cons.inj rest
          have inside : name ++ ['>'] = t ++ '<' :: m := (List.cons.inj longer).2
          have member : '<' ∈ name ++ ['>'] := by simp [inside]
          simp [opening] at member
    · exact ⟨m, shorter⟩
  · exact ⟨after ++ '<' :: rest, by rw [whole, List.append_assoc]⟩

section Replacing

variable (f : Text → Text)

theorem replaceNames_written {name : Text} (named : IsName name) (after : Text) :
    replaceNames f (written name ++ after) = f name ++ replaceNames f after := by
  have found : name? (written name ++ after) = some name := name?_eq_some.mpr ⟨named, after, rfl⟩
  refine Text.replaceEach_found (by simp [written]) ?_
  rw [found, Option.map_some]
  simp [written]

theorem replaceNames_append_open (t rest : Text) :
    replaceNames f (t ++ '<' :: rest) = replaceNames f t ++ replaceNames f ('<' :: rest) := by
  refine Text.replaceEach_append fun u filled _ => ?_
  obtain ⟨c, u, rfl⟩ := List.exists_cons_of_ne_nil filled
  rw [name?_append_open]
  refine ⟨rfl, fun e replaced => ?_⟩
  obtain ⟨name, found, rfl⟩ := Option.map_eq_some_iff.mp replaced
  obtain ⟨-, after, whole⟩ := name?_eq_some.mp found
  have length := congrArg List.length whole
  simp only [written, List.length_append, List.length_cons, List.length_nil] at length ⊢
  omega

theorem replaceNames_append_written {name : Text} (named : IsName name) (before after : Text) :
    replaceNames f (before ++ (written name ++ after)) =
      replaceNames f before ++ (f name ++ replaceNames f after) := by
  rw [← replaceNames_written f named after]
  exact replaceNames_append_open f before _

theorem replaceNames_of_plain {t : Text} (plain : Plain t) : replaceNames f t = t := by
  refine Text.replaceEach_eq_self fun u _ ⟨before, suffix⟩ => ?_
  rw [Option.map_eq_none_iff, Option.eq_none_iff_forall_ne_some]
  intro name found
  obtain ⟨named, after, rfl⟩ := name?_eq_some.mp found
  exact plain before name after named suffix.symm

end Replacing

theorem idxOf?_eq_some {header : List Text} {name : Text} {i : Nat} :
    header.idxOf? name = some i ↔ FirstColumn header name i := by
  rw [List.idxOf?_eq_some_iff, FirstColumn, List.getElem?_eq_some_iff]
  constructor
  · rintro ⟨bound, here, earlier⟩
    refine ⟨⟨bound, here⟩, fun member => ?_⟩
    obtain ⟨j, before, found⟩ := List.mem_take_iff_getElem.mp member
    exact earlier j (by omega) found
  · rintro ⟨⟨bound, here⟩, earlier⟩
    refine ⟨bound, here, fun j before found => earlier ?_⟩
    exact List.mem_take_iff_getElem.mpr ⟨j, by omega, found⟩

theorem value_iff {header cells : List Text} {name t : Text} :
    Value header cells name t ↔
      t = ((header.idxOf? name).bind fun i => cells[i]?).getD ('<' :: name ++ ['>']) := by
  constructor
  · intro stands
    cases stands with
    | cell column found => rw [idxOf?_eq_some.mpr column, Option.bind_some, found, Option.getD_some]
    | kept missing =>
        cases column : header.idxOf? name with
        | none => rfl
        | some i =>
            rw [Option.bind_some, missing i (idxOf?_eq_some.mp column)]
            rfl
  · rintro rfl
    cases column : header.idxOf? name with
    | none => exact .kept fun i first => absurd (column.symm.trans (idxOf?_eq_some.mpr first)) (by simp)
    | some i =>
        cases found : cells[i]? with
        | some cell =>
            rw [Option.bind_some, found, Option.getD_some]
            exact .cell (idxOf?_eq_some.mp column) found
        | none =>
            rw [Option.bind_some, found, Option.getD_none]
            refine .kept fun j first => ?_
            rwa [← Option.some.inj (column.symm.trans (idxOf?_eq_some.mpr first))]

theorem Filled.eq_fill {header cells : List Text} {t r : Text} (filled : Filled header cells t r) :
    r = fill header cells t := by
  induction filled with
  | plain none => exact (replaceNames_of_plain _ none).symm
  | placeholder named stands left right ihLeft ihRight =>
      rw [fill, replaceNames_append_written _ named, ← value_iff.mp stands]
      rw [ihLeft, ihRight]
      rfl

theorem filled_fill (header cells : List Text) (t : Text) : Filled header cells t (fill header cells t) := by
  induction length : t.length using Nat.strongRecOn generalizing t with
  | ind n ih =>
      by_cases none : Plain t
      · rw [fill, replaceNames_of_plain _ none]
        exact .plain none
      · simp only [Plain, not_forall, not_not] at none
        obtain ⟨before, name, after, named, rfl⟩ := none
        simp only [written, List.length_append, List.length_cons] at length
        rw [fill, replaceNames_append_written _ named]
        exact .placeholder named (value_iff.mpr rfl) (ih before.length (by omega) before rfl)
          (ih after.length (by omega) after rfl)

theorem filled_iff {header cells : List Text} {t r : Text} :
    Filled header cells t r ↔ r = fill header cells t :=
  ⟨Filled.eq_fill, fun same => same ▸ filled_fill header cells t⟩

end Placeholder

/-! ## Expansions -/

namespace Scenario

theorem liveSteps_lines (s : Scenario) : (s.liveSteps.map Prod.snd).Sublist s.stepLines := by
  have zipped : ∀ (steps : List Text) (lines : List Nat),
      ((steps.zip lines).map Prod.snd).Sublist lines := by
    intro steps
    induction steps with
    | nil => simp
    | cons step steps ih =>
        intro lines
        cases lines with
        | nil => simp
        | cons line lines => simpa using ih lines
  exact (List.filter_sublist.map _).trans (zipped s.steps s.stepLines)

theorem liveSteps_distinct {s : Scenario} (distinct : s.stepLines.Nodup) :
    s.liveSteps.Pairwise fun a b => a.2 ≠ b.2 :=
  List.pairwise_map.mp (List.Pairwise.sublist s.liveSteps_lines distinct)

theorem expansion_eq_map (s : Scenario) :
    s.expansion = ((s.exampleTable.2.filter fun r => !r.commented) ×ˢ s.liveSteps).map fun p =>
      (⟨s.card.location.atLine p.2.2, some p.1.number⟩,
        Placeholder.fill s.exampleTable.1 p.1.cells p.2.1) := by
  simp only [expansion, SProd.sprod, List.product, List.map_flatMap, List.map_map]
  rfl

theorem mem_expansion {s : Scenario} {l : StepLocation} {t : Text} :
    (l, t) ∈ s.expansion ↔ ∃ r ∈ s.exampleTable.2, r.commented = false ∧ ∃ step line,
      (step, line) ∈ s.liveSteps ∧ l = ⟨s.card.location.atLine line, some r.number⟩ ∧
      t = Placeholder.fill s.exampleTable.1 r.cells step := by
  simp only [expansion, List.mem_flatMap, List.mem_filter, List.mem_map, Prod.mk.injEq,
    Bool.not_eq_true', Prod.exists, and_assoc]
  constructor
  · rintro ⟨r, row, live, step, line, member, rfl, rfl⟩
    exact ⟨r, row, live, step, line, member, rfl, rfl⟩
  · rintro ⟨r, row, live, step, line, member, rfl, rfl⟩
    exact ⟨r, row, live, step, line, member, rfl, rfl⟩

theorem expansion_length (s : Scenario) :
    s.expansion.length =
      (s.exampleTable.2.filter fun r => !r.commented).length * s.liveSteps.length := by
  rw [expansion_eq_map, List.length_map, List.length_product]

theorem expansion_distinct {s : Scenario} (distinct : s.stepLines.Nodup) :
    s.expansion.Pairwise fun a b => a.1.key ≠ b.1.key := by
  refine List.pairwise_flatMap.mpr ⟨fun r _ => List.pairwise_map.mpr ?_, ?_⟩
  · refine (liveSteps_distinct distinct).imp fun differ same => differ ?_
    simpa [StepLocation.key, Location.atLine] using same
  · -- Rows have numbers of their own, so the steps of two rows are different calls.
    refine (s.exampleTable_table.numbers.sublist List.filter_sublist).imp fun less => ?_
    rintro a called b called' same
    obtain ⟨_, -, rfl⟩ := List.mem_map.mp called
    obtain ⟨_, -, rfl⟩ := List.mem_map.mp called'
    exact Nat.ne_of_lt less (by simpa [StepLocation.key] using congrArg (fun key => key.2.2) same)

/-- An outline stands for its live steps once for each live row, rows and steps in their order. A step is located
by its line and the number of the row, and it says what it says with the cells of the row for its placeholders.
So there are as many as rows times steps, and all at different places if the steps are. -/
theorem expansion_exact (s : Scenario) :
    ExampleRow.Table s.examples s.exampleTable.1 s.exampleTable.2 ∧
      List.Forall₂ (fun p e => e.1 = ⟨⟨s.card.location.file, p.2.2⟩, some p.1.number⟩ ∧
          ∀ t, Placeholder.Filled s.exampleTable.1 p.1.cells p.2.1 t ↔ t = e.2)
        ((s.exampleTable.2.filter fun r => !r.commented) ×ˢ s.liveSteps) s.expansion ∧
      s.expansion.length =
        (s.exampleTable.2.filter fun r => !r.commented).length * s.liveSteps.length ∧
      (s.stepLines.Pairwise (· < ·) → s.expansion.Pairwise fun a b => a.1.order b.1 ≠ .eq) := by
  refine ⟨s.exampleTable_table, ?_, s.expansion_length, fun ascending => ?_⟩
  · rw [expansion_eq_map, List.forall₂_map_right_iff]
    exact List.forall₂_same.mpr fun p _ => ⟨rfl, fun t => Placeholder.filled_iff⟩
  · have distinct := expansion_distinct (ascending.imp Nat.ne_of_lt)
    exact distinct.imp fun differ same => differ (StepLocation.order_eq_iff.mp same)

/-- An outline with brackets in brackets and a step that is commented out. Two columns have one name, a cell looks
like a placeholder, a row is commented out, the header stands there twice, and the last row is short. -/
def shopOutline : Scenario where
  card := { location := ⟨⟨"shop.feature"⟩, 3⟩ }
  kind := .outline
  steps := ["Given <a<b>>", "# <b>", "Then <c> <b>"]
  stepLines := [4, 5, 6]
  examples := ["# old", "| b | c | b |", "| <c> | 1 | x |", "#| 2 | 3 | 4 |", "|b|c|b|", "| 5 |"]

theorem expansion_exact_shop :
    shopOutline.stepLines.Pairwise (· < ·) ∧
      shopOutline.expansion =
        [(⟨⟨⟨"shop.feature"⟩, 4⟩, some 1⟩, "Given <a<c>>".toList),
          (⟨⟨⟨"shop.feature"⟩, 6⟩, some 1⟩, "Then 1 <c>".toList),
          (⟨⟨⟨"shop.feature"⟩, 4⟩, some 3⟩, "Given <a5>".toList),
          (⟨⟨⟨"shop.feature"⟩, 6⟩, some 3⟩, "Then <c> 5".toList)] ∧
      shopOutline.expansion.Pairwise fun a b => a.1.order b.1 ≠ .eq := by
  have ascending : shopOutline.stepLines.Pairwise (· < ·) := by decide
  exact ⟨ascending, by decide +kernel, (expansion_exact shopOutline).2.2.2 ascending⟩

end Scenario

end SuiteAudit
