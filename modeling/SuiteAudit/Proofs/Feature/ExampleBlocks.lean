import Mathlib.Algebra.GroupWithZero.Nat
import SuiteAudit.Proofs.Feature.Append
import SuiteAudit.Proofs.Feature.Outline
import SuiteAudit.Proofs.List

/-!
# Outlines with several tables of examples

All tables below an outline are read as one: its header is that of the first, and what is like the header starts
another table. So an outline stands for its steps once for each row that differs from the first header, in the order
of the text (`ofText_exampleBlocks`). Tables that all have the first header, in no other row, are expanded each
under its own; the header of a table that has another one is taken for a row (`ofText_otherHeader`).
-/

namespace SuiteAudit

open Text

namespace Line

theorem trimStart_of_isExamples {line : Text} (marker : isExamples line = true) :
    ∃ rest, trimStart line = "Examples:".toList ++ rest ∨ trimStart line = "Scenarios:".toList ++ rest := by
  simp only [isExamples, afterExamples?, afterAny?, Option.isSome_map, List.findSome?_isSome_iff] at marker
  obtain ⟨head, member, found⟩ := marker
  obtain ⟨rest, found⟩ := Option.isSome_iff_exists.mp found
  have cut := after?_eq_some.mp found
  rcases List.mem_pair.mp member with rfl | rfl
  · exact ⟨rest, .inl cut⟩
  · exact ⟨rest, .inr cut⟩

theorem kind_of_isExamples {line : Text} (marker : isExamples line = true) :
    scenarioTitle? line = none ∧ isTags line = false ∧ isComment line = false ∧ isRow line = false ∧
      allBlank line = false := by
  obtain ⟨rest, start⟩ := trimStart_of_isExamples marker
  have filled : allBlank line = false :=
    allBlank_of_trimStart fun none => by simp [none] at start
  rcases start with start | start
  all_goals
    simp only [scenarioTitle?, isTags, startsWithTag, afterTag?, isCommentedTags, afterCommentTag?,
      isComment, afterComment?, isRow, start]
    exact ⟨rfl, rfl, rfl, rfl, filled⟩

theorem trimStart_of_isRow {line : Text} (row : isRow line = true) : ∃ rest, trimStart line = '|' :: rest := by
  unfold isRow at row
  split at row
  case h_1 rest start => exact ⟨rest, start⟩
  case h_2 => cases row

theorem kind_of_isRow {line : Text} (row : isRow line = true) :
    isTags line = false ∧ isComment line = false ∧ allBlank line = false := by
  obtain ⟨rest, start⟩ := trimStart_of_isRow row
  have filled : allBlank line = false :=
    allBlank_of_trimStart fun none => by simp [none] at start
  simp only [isTags, startsWithTag, afterTag?, isCommentedTags, afterCommentTag?, isComment, afterComment?, start]
  exact ⟨rfl, rfl, filled⟩

end Line

namespace Feature

/-! ## Rows -/

/-- The cells of the rows among the given lines. -/
def tableRows (lines : List Text) : List (List Text) := ((lines.map trim).filter Line.isRow).map Line.cells

theorem tableRows_append (lines more : List Text) :
    tableRows (lines ++ more) = tableRows lines ++ tableRows more := by
  simp [tableRows]

theorem exampleLines_rows (lines : List NumberedLine) :
    ((exampleLines lines).filter fun line => !Line.isComment line).map Line.cells =
      tableRows (lines.map NumberedLine.text) := by
  rw [exampleLines, List.filter_filter, tableRows, List.map_map]
  congr 1
  refine List.filter_congr fun line _ => ?_
  cases row : Line.isRow line with
  | true => simp [(Line.kind_of_isRow row).2.1]
  | false => cases Line.isComment line <;> rfl

theorem tableRows_of_unsettled {lines : List Text} (unsettled : ∀ line ∈ lines, settles line = false) :
    tableRows lines = [] := by
  rw [tableRows, List.map_eq_nil_iff, List.filter_eq_nil_iff]
  intro trimmed member row
  obtain ⟨line, source, rfl⟩ := List.mem_map.mp member
  obtain ⟨tags, comment, filled⟩ := Line.kind_of_isRow row
  rw [Line.isTags_trim] at tags
  rw [Line.isComment_trim] at comment
  rw [Line.allBlank_eq_isEmpty_trim, trim_trim, ← Line.allBlank_eq_isEmpty_trim] at filled
  have settled : settles line = true := by simp [settles, tags, comment, filled]
  rw [unsettled line source] at settled
  cases settled

/-! ## The segment of an outline -/

/-- A segment goes on to the next title, less the tag lines, blank lines and comments right above it that belong
to it. -/
theorem segmentsFrom_run {lines after : List NumberedLine} (untitled : ∀ l ∈ lines, isTitle l.text = false)
    (ends : ∀ l ∈ after.head?, isTitle l.text = true) (segment : List NumberedLine) {pending : List NumberedLine}
    (waiting : ∀ l ∈ pending, settles l.text = false) :
    ∃ own moved others, pending.reverse ++ lines = own ++ moved ∧ (∀ l ∈ moved, settles l.text = false) ∧
      segmentsFrom (some segment) pending (lines ++ after) = (segment.reverse ++ own) :: others := by
  induction lines generalizing segment pending with
  | nil =>
      cases after with
      | nil => exact ⟨pending.reverse, [], [], by simp, by simp, by simp [segmentsFrom]⟩
      | cons title rest =>
          refine ⟨[], pending.reverse, segmentsFrom (some (title :: pending)) [] rest, by simp, ?_, ?_⟩
          · simpa using waiting
          · rw [List.nil_append, segmentsFrom, if_pos (ends title rfl)]
            simp
  | cons l lines ih =>
      obtain ⟨first, later⟩ := List.forall_mem_cons.mp untitled
      rw [List.cons_append, segmentsFrom, if_neg (by simp [first])]
      split
      case isTrue keep =>
        have waits : settles l.text = false := by
          rw [settles, Bool.not_eq_false']
          revert keep
          cases Line.isTags l.text <;> cases allBlank l.text <;> cases Line.isComment l.text <;> simp
        obtain ⟨own, moved, others, whole, unsettled, cut⟩ :=
          ih later segment (List.forall_mem_cons.mpr ⟨waits, waiting⟩)
        exact ⟨own, moved, others, by simpa using whole, unsettled, cut⟩
      case isFalse =>
        obtain ⟨own, moved, others, whole, unsettled, cut⟩ :=
          ih later (l :: (pending ++ segment)) (List.forall_mem_nil _)
        refine ⟨pending.reverse ++ l :: own, moved, others, ?_, unsettled, ?_⟩
        · rw [List.reverse_nil, List.nil_append] at whole
          simp [whole]
        · rw [Option.map_some, cut]
          simp

theorem settles_of_isExamples {line : Text} (marker : Line.isExamples line = true) : settles line = true := by
  obtain ⟨-, tags, comment, -, filled⟩ := Line.kind_of_isExamples marker
  simp [settles, tags, comment, filled]

theorem readScenario?_examples (file : SourcePath) {above steps : List NumberedLine} {title marker : NumberedLine}
    {kind : ScenarioKind} {start : Text} (untitled : ∀ l ∈ above, isTitle l.text = false)
    (read : Line.scenarioTitle? title.text = some (kind, start)) (outline : kind.isOutline = true)
    (plain : ∀ l ∈ steps, Line.isExamples l.text = false) (marked : Line.isExamples marker.text = true)
    (rest : List NumberedLine) :
    ∃ alone, readScenario? file (title :: steps) = some alone ∧ alone.kind = kind ∧
      alone.card.location = ⟨file, title.number⟩ ∧
      readScenario? file (above ++ title :: (steps ++ marker :: rest)) =
        some { alone with tags := tagsOf above, examples := exampleLines (marker :: rest) } := by
  have ends : endsName (trim marker.text) = true := by
    simp only [endsName, Line.isExamples_trim, marked, Bool.or_true, Bool.true_or]
  obtain ⟨taken, suffix⟩ := readName_suffix start steps
  have unmarked : ∀ l ∈ (readName start steps).2, (!Line.isExamples l.text) = true := by
    intro l member
    rw [plain l (suffix ▸ List.mem_append_right taken member)]
    rfl
  have alone := readScenario?_title file (List.forall_mem_nil _) read steps
  simp only [List.nil_append, List.takeWhile_eq_self_iff.mpr unmarked, outline, if_true] at alone
  refine ⟨_, alone, rfl, rfl, ?_⟩
  have stepLines : ((readName start steps).2 ++ marker :: rest).takeWhile (fun l => !Line.isExamples l.text) =
      (readName start steps).2 := by
    rw [List.takeWhile_append_of_pos unmarked, List.takeWhile_cons_of_neg (by simp [marked]), List.append_nil]
  rw [readScenario?_title file untitled read, readName_append start ends]
  simp only [stepLines, List.drop_left, outline, if_true]
  rfl

theorem mem_scenarios_foldl {s : Scenario} {ss : List Scenario} (member : s ∈ ss) (kind : s.kind ≠ .background)
    (f : Feature) : ∃ tags, { s with tags := tags } ∈ (ss.foldl addBlock f).scenarios := by
  refine ⟨s.tags ++ f.tags, ?_⟩
  rw [scenarios_foldl_addBlock]
  exact List.mem_append_right _ (List.mem_map_of_mem (List.mem_filter.mpr ⟨member, by simpa using kind⟩))

end Feature

/-! ## Rows of an expansion -/

theorem ExampleRow.cells_below (header : List Text) (n : Nat) (lines : List Text) :
    ((below header n lines).filter fun r => !r.commented).map cells =
      ((lines.filter fun line => !Line.isComment line).map Line.cells).filter (· != header) := by
  induction lines generalizing n with
  | nil => rfl
  | cons line lines ih =>
      rw [below]
      split
      case isTrue commented => simp [commented, ih]
      case isFalse plain =>
        split
        case isTrue same => simp [plain, same, ih]
        case isFalse other => simp [plain, other, ih]

namespace Scenario

theorem exampleTable_of_rows (s : Scenario) {header : List Text} {rows : List (List Text)}
    (table : (s.examples.filter fun line => !Line.isComment line).map Line.cells = header :: rows) :
    s.exampleTable.1 = header ∧
      (s.exampleTable.2.filter fun r => !r.commented).map ExampleRow.cells = rows.filter (· != header) := by
  have above : ((s.examples.takeWhile Line.isComment).filter fun line => !Line.isComment line) = [] :=
    List.filter_eq_nil_iff.mpr fun line member => by simp [List.mem_takeWhile_imp member]
  rw [← List.takeWhile_append_dropWhile (p := Line.isComment) (l := s.examples), List.filter_append, above,
    List.nil_append] at table
  unfold exampleTable
  split
  case h_1 none => simp [none] at table
  case h_2 head below found =>
    have plain : Line.isComment head = false := by
      have first := List.head?_dropWhile_not Line.isComment s.examples
      simpa [found] using first
    rw [found, List.filter_cons_of_pos (by simp [plain]), List.map_cons] at table
    obtain ⟨rfl, rfl⟩ := List.cons.inj table
    exact ⟨rfl, ExampleRow.cells_below _ 1 below⟩

/-- An outline stands for its steps once for each row that differs from the header. -/
theorem expansion_of_rows (s : Scenario) {header : List Text} {rows : List (List Text)}
    (table : (s.examples.filter fun line => !Line.isComment line).map Line.cells = header :: rows) :
    List.Forall₂ (fun p e => ∀ t, Placeholder.Filled header p.1 p.2.1 t ↔ t = e.2)
      (rows.filter (· != header) ×ˢ s.liveSteps) s.expansion := by
  obtain ⟨rfl, live⟩ := s.exampleTable_of_rows table
  rw [expansion_eq_map, ← live, map_product, List.forall₂_map_left_iff, List.forall₂_map_right_iff]
  exact List.forall₂_same.mpr fun p _ t => Placeholder.filled_iff

end Scenario

namespace Feature

/-! ## Outlines in a text -/

theorem own_of_settled {steps rest own moved : List NumberedLine} {marker : NumberedLine}
    (settled : settles marker.text = true) (unsettled : ∀ l ∈ moved, settles l.text = false)
    (whole : steps ++ marker :: rest = own ++ moved) :
    ∃ below, own = steps ++ marker :: below ∧ rest = below ++ moved := by
  have outside : marker ∉ moved := by
    intro member
    rw [unsettled marker member] at settled
    cases settled
  rcases List.append_eq_append_iff.mp whole with ⟨below, rfl, tail⟩ | ⟨_, -, rfl⟩
  · cases below with
    | nil =>
        rw [List.nil_append] at tail
        exact absurd (by simp [← tail]) outside
    | cons l below =>
        obtain ⟨rfl, rfl⟩ := List.cons.inj tail
        exact ⟨below, rfl, rfl⟩
  · exact absurd (by simp) outside

theorem segments_examples (lines : List NumberedLine) {title marker : NumberedLine}
    {steps rest after : List NumberedLine} (titled : isTitle title.text = true)
    (untitled : ∀ l ∈ steps ++ marker :: rest, isTitle l.text = false) (settled : settles marker.text = true)
    (ends : ∀ l ∈ after.head?, isTitle l.text = true) :
    ∃ above own moved, (∀ l ∈ above, isTitle l.text = false) ∧ rest = own ++ moved ∧
      (∀ l ∈ moved, settles l.text = false) ∧
      above ++ title :: (steps ++ marker :: own) ∈
        segments (lines ++ title :: (steps ++ marker :: rest ++ after)) := by
  obtain ⟨done, above, plain, start⟩ := segmentsFrom_title titled lines none [] (List.forall_mem_nil _)
  obtain ⟨own, moved, others, whole, unsettled, cut⟩ :=
    segmentsFrom_run untitled ends (title :: above) (List.forall_mem_nil _)
  obtain ⟨below, rfl, rest⟩ := own_of_settled settled unsettled whole
  refine ⟨above.reverse, below, moved, by simpa using plain, rest, unsettled, ?_⟩
  rw [segments, start, cut]
  simp

theorem readHeader_below (file : SourcePath) {above rest : List NumberedLine} {title : NumberedLine}
    (titled : isTitle title.text = true)
    (headed : (∃ l ∈ above, (Line.featureTitle? l.text).isSome = true) ∨
      ∀ l ∈ above ++ title :: rest, Line.featureTitle? l.text = none) :
    ∃ body, (readHeader file (above ++ title :: rest)).2 = body ++ title :: rest := by
  rcases headed with headed | headless
  · rw [readHeader_append file headed (endsName_of_isTitle titled)]
    exact ⟨_, rfl⟩
  · rw [readHeader_of_untitled file headless]
    exact ⟨above, rfl⟩

/-- A table of examples: its marker, and the lines below it. The first row is the header. -/
structure ExampleBlock where
  marker : Text
  below : List Text
  header : List Text
  data : List (List Text)
  marked : Line.isExamples marker = true
  plain : ∀ line ∈ below, isTitle line = false ∧ Line.isExamples line = false
  rows : tableRows below = header :: data

namespace ExampleBlock

def lines (b : ExampleBlock) : List Text := b.marker :: b.below

theorem tableRows_lines (b : ExampleBlock) : tableRows b.lines = b.header :: b.data := by
  have marker : Line.isRow (trim b.marker) = false :=
    (Line.kind_of_isExamples ((Line.isExamples_trim b.marker).trans b.marked)).2.2.2.1
  have rows := b.rows
  rw [tableRows] at rows ⊢
  rw [lines, List.map_cons, List.filter_cons_of_neg (by simp [marker]), rows]

theorem tableRows_flatMap (bs : List ExampleBlock) :
    tableRows (bs.flatMap lines) = bs.flatMap fun b => b.header :: b.data := by
  induction bs with
  | nil => rfl
  | cons b bs ih => rw [List.flatMap_cons, tableRows_append, tableRows_lines, ih, List.flatMap_cons]

theorem untitled_lines (b : ExampleBlock) : ∀ line ∈ b.lines, isTitle line = false := by
  refine List.forall_mem_cons.mpr ⟨?_, fun line member => (b.plain line member).1⟩
  rw [isTitle, (Line.kind_of_isExamples b.marked).1]
  rfl

end ExampleBlock

/-- An outline with its tables of examples, and all lines around it. It goes on to the next title. -/
structure OutlineLines where
  above : List Text
  title : Text
  kind : ScenarioKind
  name : Text
  steps : List Text
  first : ExampleBlock
  others : List ExampleBlock
  after : List Text
  titled : Line.scenarioTitle? title = some (kind, name)
  outline : kind.isOutline = true
  inSteps : ∀ line ∈ steps, isTitle line = false ∧ Line.isExamples line = false
  ends : ∀ line ∈ after.head?, isTitle line = true

namespace OutlineLines

def blocks (o : OutlineLines) : List ExampleBlock := o.first :: o.others

def lines (o : OutlineLines) : List Text :=
  o.above ++ o.title :: (o.steps ++ o.blocks.flatMap ExampleBlock.lines ++ o.after)

/-- The rows below the first header. The headers of the other tables are among them. -/
def rows (o : OutlineLines) : List (List Text) :=
  o.first.data ++ o.others.flatMap fun b => b.header :: b.data

/-- The outline is in the feature: no title of a feature below it is the first in the file. -/
def Headed (o : OutlineLines) : Prop :=
  (∃ line ∈ o.above, (Line.featureTitle? line).isSome = true) ∨
    ∀ line ∈ o.lines, Line.featureTitle? line = none

open NumberedLine (countFrom)

/-- What stands below the first marker, up to the next title. -/
def below (o : OutlineLines) : List Text := o.first.below ++ o.others.flatMap ExampleBlock.lines

theorem tableRows_below (o : OutlineLines) : tableRows (o.first.marker :: o.below) = o.first.header :: o.rows := by
  have whole : o.first.marker :: o.below = o.blocks.flatMap ExampleBlock.lines := rfl
  rw [whole, ExampleBlock.tableRows_flatMap]
  rfl

theorem countFrom_lines (o : OutlineLines) :
    let title := 1 + o.above.length
    let marker := title + 1 + o.steps.length
    countFrom 1 o.lines = countFrom 1 o.above ++ ⟨title, o.title⟩ :: (countFrom (title + 1) o.steps ++
      ⟨marker, o.first.marker⟩ :: countFrom (marker + 1) o.below ++
        countFrom (marker + 1 + o.below.length) o.after) := by
  intro title marker
  have whole : o.steps ++ o.blocks.flatMap ExampleBlock.lines ++ o.after =
      o.steps ++ o.first.marker :: (o.below ++ o.after) := by
    simp [blocks, below, ExampleBlock.lines]
  rw [lines, whole, NumberedLine.countFrom_append, countFrom, NumberedLine.countFrom_append, countFrom,
    NumberedLine.countFrom_append]
  simp [title, marker]

theorem untitled_below (o : OutlineLines) : ∀ line ∈ o.first.marker :: o.below, isTitle line = false := by
  intro line member
  have inside : line ∈ o.blocks.flatMap ExampleBlock.lines := member
  obtain ⟨b, -, own⟩ := List.mem_flatMap.mp inside
  exact b.untitled_lines line own

/-- The outline is read as a scenario of the feature. It has the steps that it has without its tables, and its
examples are the rows of all of them. -/
theorem exists_scenario (o : OutlineLines) (file : SourcePath) {t : Text} (lines : Text.lines t = o.lines)
    (headed : o.Headed) :
    ∃ s ∈ (ofText file t).scenarios, ∃ alone,
      readScenario? file (countFrom (1 + o.above.length) (o.title :: o.steps)) = some alone ∧
      s.kind = o.kind ∧ s.card.location = ⟨file, 1 + o.above.length⟩ ∧ s.liveSteps = alone.liveSteps ∧
      (s.examples.filter fun line => !Line.isComment line).map Line.cells = o.first.header :: o.rows := by
  let title : NumberedLine := ⟨1 + o.above.length, o.title⟩
  let marker : NumberedLine := ⟨title.number + 1 + o.steps.length, o.first.marker⟩
  let steps := countFrom (title.number + 1) o.steps
  let rest := countFrom (marker.number + 1) o.below
  let after := countFrom (marker.number + 1 + o.below.length) o.after
  have numbered : countFrom 1 o.lines = countFrom 1 o.above ++ title :: (steps ++ marker :: rest ++ after) :=
    o.countFrom_lines
  have title_read : Line.scenarioTitle? title.text = some (o.kind, o.name) := o.titled
  have titled : isTitle title.text = true := isTitle_of_scenarioTitle? title_read
  have marked : Line.isExamples marker.text = true := o.first.marked
  have inSteps : ∀ l ∈ steps, isTitle l.text = false ∧ Line.isExamples l.text = false :=
    fun l member => o.inSteps l.text (NumberedLine.mem_of_mem_countFrom member)
  have untitled : ∀ l ∈ steps ++ marker :: rest, isTitle l.text = false := by
    refine List.forall_mem_append.mpr ⟨fun l member => (inSteps l member).1, ?_⟩
    obtain ⟨first, later⟩ := List.forall_mem_cons.mp o.untitled_below
    exact List.forall_mem_cons.mpr
      ⟨first, fun l member => later l.text (NumberedLine.mem_of_mem_countFrom member)⟩
  have ends : ∀ l ∈ after.head?, isTitle l.text = true := by
    intro l member
    rw [NumberedLine.head?_countFrom] at member
    obtain ⟨line, first, rfl⟩ := Option.map_eq_some_iff.mp member
    exact o.ends line first
  have headed' : (∃ l ∈ countFrom 1 o.above, (Line.featureTitle? l.text).isSome = true) ∨
      ∀ l ∈ countFrom 1 o.above ++ title :: (steps ++ marker :: rest ++ after),
        Line.featureTitle? l.text = none := by
    refine headed.imp (NumberedLine.exists_mem_countFrom 1) fun headless l member => ?_
    rw [← numbered] at member
    exact headless l.text (NumberedLine.mem_of_mem_countFrom member)
  obtain ⟨body, header⟩ := readHeader_below file titled headed'
  obtain ⟨above, own, moved, plain, whole, unsettled, segment⟩ :=
    segments_examples body titled untitled (settles_of_isExamples marked) ends
  obtain ⟨alone, read, kind, location, scenario⟩ := readScenario?_examples file plain title_read o.outline
    (fun l member => (inSteps l member).2) marked own
  have block : { alone with tags := tagsOf above, examples := exampleLines (marker :: own) } ∈
      (segments (readHeader file (NumberedLine.ofText t)).2).filterMap (readScenario? file) := by
    rw [NumberedLine.ofText, lines, numbered, header]
    exact List.mem_filterMap.mpr ⟨_, segment, scenario⟩
  have listed : alone.kind ≠ .background := by
    rw [kind]
    rintro background
    have outline := o.outline
    rw [background] at outline
    cases outline
  obtain ⟨tags, member⟩ := mem_scenarios_foldl block listed (readHeader file (NumberedLine.ofText t)).1
  refine ⟨_, member, alone, read, kind, location, rfl, ?_⟩
  have texts : (marker :: rest).map NumberedLine.text = o.first.marker :: o.below := by
    rw [List.map_cons, NumberedLine.countFrom_texts]
  have none : tableRows (moved.map NumberedLine.text) = [] :=
    tableRows_of_unsettled (List.forall_mem_map.mpr unsettled)
  rw [exampleLines_rows, ← o.tableRows_below, ← texts, whole, ← List.cons_append, List.map_append, tableRows_append,
    none, List.append_nil]

theorem filter_rows (o : OutlineLines) (same : ∀ b ∈ o.others, b.header = o.first.header)
    (fresh : ∀ b ∈ o.blocks, o.first.header ∉ b.data) :
    o.rows.filter (· != o.first.header) = o.blocks.flatMap ExampleBlock.data := by
  have kept {b : ExampleBlock} (member : b ∈ o.blocks) :
      b.data.filter (· != o.first.header) = b.data := by
    rw [List.filter_eq_self]
    rintro cells row
    rw [bne_iff_ne]
    rintro rfl
    exact fresh b member row
  rw [rows, blocks, List.filter_append, kept List.mem_cons_self, List.flatMap_cons, List.filter_flatMap]
  congr 1
  apply List.flatMap_congr
  intro b member
  rw [List.filter_cons_of_neg (by simp [same b member]), kept (List.mem_cons_of_mem _ member)]

end OutlineLines

/-- The tables below an outline are read under the header of the first. The outline stands for its live steps once
for each row that differs from this header, in the order of the text, and each such row gives its cells for the names
in it. So tables that all have this header, in no other row, are expanded each under its own. -/
theorem ofText_exampleBlocks (file : SourcePath) (o : OutlineLines) {t : Text} (lines : Text.lines t = o.lines)
    (headed : o.Headed) :
    ∃ s ∈ (ofText file t).scenarios, ∃ alone,
      readScenario? file (NumberedLine.countFrom (1 + o.above.length) (o.title :: o.steps)) = some alone ∧
      s.kind = o.kind ∧ s.card.location = ⟨file, 1 + o.above.length⟩ ∧ s.liveSteps = alone.liveSteps ∧
      s.expansion.length = s.liveSteps.length * (o.rows.filter (· != o.first.header)).length ∧
      List.Forall₂ (fun p e => ∀ t, Placeholder.Filled o.first.header p.1 p.2.1 t ↔ t = e.2)
        (o.rows.filter (· != o.first.header) ×ˢ s.liveSteps) s.expansion ∧
      ((∀ b ∈ o.others, b.header = o.first.header) → (∀ b ∈ o.blocks, o.first.header ∉ b.data) →
        s.expansion.length = s.liveSteps.length * (o.blocks.map fun b => b.data.length).sum ∧
        List.Forall₂ (fun p e => ∀ t, Placeholder.Filled p.1.1 p.1.2 p.2.1 t ↔ t = e.2)
          ((o.blocks.flatMap fun b => b.data.map fun cells => (b.header, cells)) ×ˢ s.liveSteps)
          s.expansion) := by
  obtain ⟨s, member, alone, read, kind, location, steps, table⟩ := o.exists_scenario file lines headed
  have expansion := s.expansion_of_rows table
  have count : s.expansion.length = s.liveSteps.length * (o.rows.filter (· != o.first.header)).length := by
    rw [← expansion.length_eq, List.length_product, Nat.mul_comm]
  refine ⟨s, member, alone, read, kind, location, steps, count, expansion, fun same fresh => ⟨?_, ?_⟩⟩
  · rw [count, o.filter_rows same fresh, List.length_flatMap]
  · have headers : (o.blocks.flatMap fun b => b.data.map fun cells => (b.header, cells)) =
        (o.blocks.flatMap ExampleBlock.data).map fun cells => (o.first.header, cells) := by
      rw [List.map_flatMap]
      apply List.flatMap_congr
      intro b member
      rcases List.mem_cons.mp member with rfl | later
      · rfl
      · rw [same b later]
    rw [o.filter_rows same fresh] at expansion
    rw [headers, map_product, List.forall₂_map_left_iff]
    exact expansion

/-- Two tables with one header, a row that is commented out, and a tag of the next scenario below them. -/
def buyLines : OutlineLines where
  above := ["Feature: Shop"]
  title := "Scenario Outline: Buy <n>"
  kind := .outline
  name := "Buy <n>"
  steps := ["Given <n> <what>", "# late", "Then <what>"]
  first :=
    { marker := "Examples: small"
      below := ["| n | what |", "| 1 | pen |", "# | 9 | ink |", ""]
      header := ["n", "what"]
      data := [["1", "pen"]]
      marked := by decide +kernel
      plain := by decide +kernel
      rows := by decide +kernel }
  others :=
    [{ marker := "Examples:"
       below := ["|n|what|", "| 2 | <n> |", "@next"]
       header := ["n", "what"]
       data := [["2", "<n>"]]
       marked := by decide +kernel
       plain := by decide +kernel
       rows := by decide +kernel }]
  after := ["Scenario: Sell", "Given ink"]
  titled := by decide +kernel
  outline := rfl
  inSteps := by decide +kernel
  ends := by decide +kernel

theorem ofText_exampleBlocks_buy :
    Text.lines (join ['\n'] buyLines.lines) = buyLines.lines ∧ buyLines.Headed ∧
      (∀ b ∈ buyLines.others, b.header = buyLines.first.header) ∧
      (∀ b ∈ buyLines.blocks, buyLines.first.header ∉ b.data) ∧
      ∃ s ∈ (ofText ⟨"shop.feature"⟩ (join ['\n'] buyLines.lines)).scenarios, s.liveSteps.length = 2 ∧
        s.expansion.length = 4 := by
  have lines : Text.lines (join ['\n'] buyLines.lines) = buyLines.lines := by decide +kernel
  have headed : buyLines.Headed := .inl (by decide +kernel)
  have same : ∀ b ∈ buyLines.others, b.header = buyLines.first.header := by decide
  have fresh : ∀ b ∈ buyLines.blocks, buyLines.first.header ∉ b.data := by decide
  refine ⟨lines, headed, same, fresh, ?_⟩
  obtain ⟨s, member, alone, read, -, -, steps, -, -, own⟩ :=
    ofText_exampleBlocks ⟨"shop.feature"⟩ buyLines lines headed
  have live : (readScenario? ⟨"shop.feature"⟩ (NumberedLine.countFrom (1 + buyLines.above.length)
      (buyLines.title :: buyLines.steps))).map (fun s => s.liveSteps.length) = some 2 := by decide +kernel
  rw [read, Option.map_some, ← steps, Option.some.injEq] at live
  refine ⟨s, member, live, ?_⟩
  rw [(own same fresh).1, live]
  rfl

/-! ## Other headers -/

/-- The names in the header differ and are not empty, and every row has a cell for each. -/
def ExampleBlock.Regular (b : ExampleBlock) : Prop :=
  b.header.Nodup ∧ [] ∉ b.header ∧ ∀ cells ∈ b.data, cells.length = b.header.length

/-- The second table has the columns of the first in another order. -/
def swappedLines : OutlineLines where
  above := ["Feature: Shop"]
  title := "Scenario Outline: Buy"
  kind := .outline
  name := "Buy"
  steps := ["Given <a> <b>"]
  first :=
    { marker := "Examples:"
      below := ["| a | b |", "| 1 | 2 |"]
      header := ["a", "b"]
      data := [["1", "2"]]
      marked := by decide +kernel
      plain := by decide +kernel
      rows := by decide +kernel }
  others :=
    [{ marker := "Examples:"
       below := ["| b | a |", "| 3 | 4 |"]
       header := ["b", "a"]
       data := [["3", "4"]]
       marked := by decide +kernel
       plain := by decide +kernel
       rows := by decide +kernel }]
  after := ["Scenario Outline: Sell", "Given <a>", "Examples:", "| a |", "| a |", "| 5 |"]
  titled := by decide +kernel
  outline := rfl
  inSteps := by decide +kernel
  ends := by decide +kernel

/-- The outline below it has a row like its header. -/
def repeatedLines : OutlineLines where
  above := swappedLines.lines.take 9
  title := "Scenario Outline: Sell"
  kind := .outline
  name := "Sell"
  steps := ["Given <a>"]
  first :=
    { marker := "Examples:"
      below := ["| a |", "| a |", "| 5 |"]
      header := ["a"]
      data := [["a"], ["5"]]
      marked := by decide +kernel
      plain := by decide +kernel
      rows := by decide +kernel }
  others := []
  after := []
  titled := by decide +kernel
  outline := rfl
  inSteps := by decide +kernel
  ends := by decide +kernel

/-- A header that is not like the first is filled in as a row, the rows below it are read under the first, and a row
that is like it is left out. -/
theorem ofText_otherHeader :
    Text.lines (join ['\n'] swappedLines.lines) = swappedLines.lines ∧
      swappedLines.lines = repeatedLines.lines ∧
      (∀ b ∈ swappedLines.blocks ++ repeatedLines.blocks, b.Regular) ∧
      (swappedLines.blocks.map fun b => b.data.length).sum = 2 ∧
      (repeatedLines.blocks.map fun b => b.data.length).sum = 2 ∧
      (ofText ⟨"shop.feature"⟩ (join ['\n'] swappedLines.lines)).scenarios.map (fun s =>
          (s.card.location.line, s.liveSteps.length, s.expansion.map Prod.snd)) =
        [(2, 1, ["Given 1 2".toList, "Given b a".toList, "Given 3 4".toList]), (10, 1, ["Given 5".toList])] := by
  refine ⟨by decide +kernel, by decide +kernel, ?_, rfl, rfl, by decide +kernel⟩
  unfold ExampleBlock.Regular
  decide

end Feature

end SuiteAudit
