import SuiteAudit.Proofs.Feature.ExampleBlocks
import SuiteAudit.Proofs.Feature.Segments
import SuiteAudit.Proofs.List

/-!
# Examples above the next title

A table of examples goes on to the next title, but a comment that mentions `@` is a tag line that is commented out,
even if it is a row. From the first such row below the last row that counts, what is left of the table belongs to the
title that comes next (`ofText_append_lastOutline`). A table without one stays as it is, whatever follows.
-/

namespace SuiteAudit

open Text

namespace Line

def isCommentedRow (line : Text) : Bool := (afterComment? line).any isRow

/-- Whether the line can be one of a table: a row, a row that is commented out, or a blank line. -/
def inTable (line : Text) : Bool := isRow line || isCommentedRow line || allBlank line

theorem kind_of_isCommentedRow {line : Text} (row : isCommentedRow line = true) (single : '\n' ∉ line) :
    isComment line = true ∧ isRow line = false ∧ startsWithTag line = false ∧
      isCommentedTags line = line.contains '@' := by
  obtain ⟨inner, comment, row⟩ : ∃ inner, afterComment? line = some inner ∧ isRow inner = true := by
    unfold isCommentedRow at row
    cases comment : afterComment? line with
    | none => simp [comment] at row
    | some inner => exact ⟨inner, rfl, by simpa [comment] using row⟩
  have start : trimStart line = '#' :: inner := after?_eq_some.mp comment
  obtain ⟨cells, bar⟩ := trimStart_of_isRow row
  have inside : inner ⊆ line := by
    refine List.Subset.trans ?_ (trimStart_suffix line).subset
    rw [start]
    exact List.subset_cons_self _ _
  have whole : inner.takeWhile (· != '\n') = inner := by
    rw [List.takeWhile_eq_self_iff]
    intro c member
    rw [bne_iff_ne]
    rintro rfl
    exact single (inside member)
  have stepless : isCommentedStep line = false := by
    simp only [isCommentedStep, afterCommentedStep?, comment, Option.bind_eq_bind, Option.bind_some, bar]
    rfl
  have marked : (afterCommentTag? line).isSome = line.contains '@' := by
    have mention : '@' ∈ line ↔ '@' ∈ inner := by
      rw [← mem_trimStart (by decide) line, start]
      simp
    simp only [afterCommentTag?, comment, whole, Option.bind_eq_bind, Option.bind_some, Option.pure_def]
    rw [Bool.eq_iff_iff, List.contains_iff_mem, mention, ← isSome_afterLast?]
    cases afterLast? '@' inner <;> rfl
  refine ⟨?_, ?_, ?_, ?_⟩
  · rw [isComment, comment, Option.isSome_some]
  · rw [isRow, start]
    rfl
  · rw [startsWithTag, afterTag?, start]
    rfl
  · rw [isCommentedTags, stepless, marked, Bool.not_false, Bool.and_true]

end Line

namespace Feature

/-! ## Lines of a table -/

theorem isTitle_of_isRow {line : Text} (row : Line.isRow line = true) : isTitle line = false := by
  obtain ⟨rest, start⟩ := Line.trimStart_of_isRow row
  simp only [isTitle, Line.scenarioTitle?, start]
  rfl

theorem settles_of_inTable {line : Text} (table : Line.inTable line = true) (single : '\n' ∉ line) :
    settles line = Line.isRow line := by
  cases row : Line.isRow line with
  | true =>
      obtain ⟨tags, comment, filled⟩ := Line.kind_of_isRow row
      simp [settles, tags, comment, filled]
  | false =>
      rw [Line.inTable, row, Bool.false_or] at table
      rcases Bool.or_eq_true_iff.mp table with commented | blank
      · simp [settles, (Line.kind_of_isCommentedRow commented single).1]
      · simp [settles, blank]

theorem isTitle_of_inTable {line : Text} (table : Line.inTable line = true) (single : '\n' ∉ line) :
    isTitle line = false := by
  cases row : Line.isRow line with
  | true => exact isTitle_of_isRow row
  | false =>
      rw [← Bool.not_eq_true]
      intro titled
      have settled := settles_of_isTitle titled
      rw [settles_of_inTable table single, row] at settled
      cases settled

/-- What is read of a line of a table that is no row. A mention of `@` makes it a tag line. -/
theorem reading_of_inTable {line : Text} (table : Line.inTable line = true) (single : '\n' ∉ line)
    (other : Line.isRow line = false) :
    Line.isTags line = line.contains '@' ∧
      tagsOfLine line = (if line.contains '@' then [trim line] else []) ∧
      (Line.isComment (trim line) || Line.isRow (trim line)) = !(trim line).isEmpty := by
  rw [Line.inTable, other, Bool.false_or] at table
  rcases Bool.or_eq_true_iff.mp table with commented | blank
  · obtain ⟨comment, -, untagged, tags⟩ := Line.kind_of_isCommentedRow commented single
    have filled : (trim line).isEmpty = false := by
      rw [← Line.isComment_trim] at comment
      cases found : trim line with
      | nil => rw [found] at comment; cases comment
      | cons c rest => rfl
    have trimmed : Line.isCommentedTags (trim line) = line.contains '@' := by
      rw [Line.isCommentedTags, Line.isSome_afterCommentTag?_trim, Line.isCommentedStep_trim,
        ← Line.isCommentedTags, tags]
    refine ⟨?_, ?_, ?_⟩
    · rw [Line.isTags, untagged, Bool.false_or, tags]
    · simp only [tagsOfLine, Line.isComment_trim, comment, trimmed, if_true]
    · rw [Line.isComment_trim, comment, filled]
      rfl
  · have empty : trim line = [] := by rwa [Line.allBlank_eq_isEmpty_trim, List.isEmpty_iff] at blank
    have unmentioned : line.contains '@' = false := by
      rw [← Bool.not_eq_true, List.contains_iff_mem]
      exact not_mem_of_allBlank (by decide) blank
    refine ⟨?_, ?_, ?_⟩
    · rw [unmentioned, isTags_of_blank empty]
    · simp only [tagsOfLine, empty, unmentioned]
      rfl
    · rw [empty]
      rfl

/-! ## What waits for the next title -/

theorem heading_append_settled {l : NumberedLine} (settled : settles l.text = true)
    (before after : List NumberedLine) : heading (before ++ l :: after) = heading after := by
  have run : (before ++ l :: after).rtakeWhile (fun l => !settles l.text) =
      after.rtakeWhile (fun l => !settles l.text) := by
    rw [List.rtakeWhile, List.reverse_append, List.reverse_cons, List.append_assoc, List.takeWhile_append]
    split
    case isTrue all =>
      rw [← (List.takeWhile_prefix _).eq_of_length all, List.rtakeWhile]
      simp [settled]
    case isFalse => rfl
  rw [heading, run, heading]

/-- A title takes its heading from the segment above it. -/
theorem segmentsFrom_heading {lines : List NumberedLine} (untitled : ∀ l ∈ lines, isTitle l.text = false)
    {title : NumberedLine} (titled : isTitle title.text = true) (rest segment above : List NumberedLine) :
    ∃ own, heading above ++ lines = own ++ heading (above ++ lines) ∧
      segmentsFrom (some segment) (heading above).reverse (lines ++ title :: rest) =
        (segment.reverse ++ own) :: segmentsFrom (some (title :: (heading (above ++ lines)).reverse)) [] rest := by
  induction lines generalizing segment above with
  | nil =>
      refine ⟨[], by simp, ?_⟩
      rw [List.nil_append, segmentsFrom, if_pos titled]
      simp
  | cons l lines ih =>
      obtain ⟨first, later⟩ := List.forall_mem_cons.mp untitled
      have next := heading_concat above l
      rw [List.cons_append, segmentsFrom, if_neg (by simp [first]), List.isEmpty_reverse]
      split
      case isTrue keep =>
        rw [if_pos keep] at next
        obtain ⟨own, whole, cut⟩ := ih later segment (above ++ [l])
        rw [next, List.reverse_append] at cut
        rw [next] at whole
        refine ⟨own, ?_, ?_⟩
        · simpa using whole
        · simpa using cut
      case isFalse pass =>
        rw [if_neg pass] at next
        obtain ⟨own, whole, cut⟩ := ih later (l :: ((heading above).reverse ++ segment)) (above ++ [l])
        rw [next] at whole cut
        refine ⟨heading above ++ l :: own, ?_, ?_⟩
        · rw [List.append_cons above, List.append_assoc, List.cons_append, ← whole, List.nil_append]
        · simpa using cut

def belowRows (lines : List Text) : List Text := lines.rtakeWhile fun line => !Line.isRow line

/-- The lines below the last row from the first that mentions `@` on. -/
def waiting (lines : List Text) : List Text := (belowRows lines).dropWhile fun line => !line.contains '@'

theorem isRow_of_mem_waiting {lines : List Text} {line : Text} (member : line ∈ waiting lines) :
    Line.isRow line = false := by
  have below := List.mem_rtakeWhile_imp ((List.dropWhile_suffix _).subset member)
  simpa using below

theorem waiting_eq_nil_iff (lines : List Text) : waiting lines = [] ↔ ∀ line ∈ belowRows lines, '@' ∉ line := by
  simp [waiting, List.dropWhile_eq_nil_iff]

/-- If any line waits, the first that does is a tag and is not blank. -/
theorem waiting_none_iff (lines : List Text) :
    (((waiting lines).map trim).filter (fun line => !line.isEmpty) = [] ↔ ∀ line ∈ belowRows lines, '@' ∉ line) ∧
    (((waiting lines).filter fun line => line.contains '@').map trim = [] ↔
      ∀ line ∈ belowRows lines, '@' ∉ line) := by
  rw [← waiting_eq_nil_iff]
  have first := List.head?_dropWhile_not (fun line : Text => !line.contains '@') (belowRows lines)
  rw [← waiting] at first
  cases found : waiting lines with
  | nil => simp
  | cons line rest =>
      have mention : '@' ∈ line := by simpa [found] using first
      have filled : (trim line).isEmpty = false := by
        rw [← Line.allBlank_eq_isEmpty_trim, ← Bool.not_eq_true]
        exact fun blank => not_mem_of_allBlank (by decide) blank mention
      rw [List.map_cons, List.filter_cons_of_pos (by simp [filled]), List.filter_cons_of_pos (by simp [mention])]
      simp

theorem heading_texts {lines : List NumberedLine}
    (table : ∀ l ∈ lines, Line.inTable l.text = true ∧ '\n' ∉ l.text) :
    (heading lines).map NumberedLine.text = waiting (lines.map NumberedLine.text) := by
  have run : lines.rtakeWhile (fun l => !settles l.text) = lines.rtakeWhile (fun l => !Line.isRow l.text) := by
    apply rtakeWhile_congr
    intro l member
    rw [settles_of_inTable (table l member).1 (table l member).2]
  have start : (lines.rtakeWhile fun l => !Line.isRow l.text).dropWhile (fun l => !Line.isTags l.text) =
      (lines.rtakeWhile fun l => !Line.isRow l.text).dropWhile (fun l => !l.text.contains '@') := by
    apply dropWhile_congr
    intro l member
    obtain ⟨inTable, single⟩ := table l ((List.rtakeWhile_suffix _ _).subset member)
    have other : Line.isRow l.text = false := by simpa using List.mem_rtakeWhile_imp member
    rw [(reading_of_inTable inTable single other).1]
  rw [heading, run, start, waiting, belowRows, List.rtakeWhile, List.rtakeWhile, ← List.map_reverse,
    List.takeWhile_map, ← List.map_reverse, List.dropWhile_map]
  rfl

theorem tagsOf_table {lines : List NumberedLine} (table : ∀ l ∈ lines, Line.inTable l.text = true ∧ '\n' ∉ l.text)
    (rowless : ∀ l ∈ lines, Line.isRow l.text = false) :
    tagsOf lines = ((lines.map NumberedLine.text).filter fun line => line.contains '@').map trim := by
  induction lines with
  | nil => rfl
  | cons l lines ih =>
      obtain ⟨⟨inTable, single⟩, table⟩ := List.forall_mem_cons.mp table
      obtain ⟨other, rowless⟩ := List.forall_mem_cons.mp rowless
      have rest := ih table rowless
      rw [tagsOf] at rest ⊢
      rw [List.flatMap_cons, rest, (reading_of_inTable inTable single other).2.1, List.map_cons, List.filter_cons]
      split <;> rfl

theorem exampleLines_table {lines : List NumberedLine}
    (table : ∀ l ∈ lines, Line.inTable l.text = true ∧ '\n' ∉ l.text)
    (rowless : ∀ l ∈ lines, Line.isRow l.text = false) :
    exampleLines lines = ((lines.map NumberedLine.text).map trim).filter fun line => !line.isEmpty := by
  rw [exampleLines, List.map_map]
  refine List.filter_congr fun line member => ?_
  obtain ⟨l, source, rfl⟩ := List.mem_map.mp member
  exact (reading_of_inTable (table l source).1 (table l source).2 (rowless l source)).2.2

/-! ## The last outline -/

theorem exists_first_marker {marker : NumberedLine} (marked : Line.isExamples marker.text = true)
    (lines : List NumberedLine) :
    ∃ steps first inner, (∀ l ∈ steps, Line.isExamples l.text = false) ∧ Line.isExamples first.text = true ∧
      ∀ rest, lines ++ marker :: rest = steps ++ first :: (inner ++ rest) := by
  induction lines with
  | nil => exact ⟨[], marker, [], List.forall_mem_nil _, marked, fun rest => rfl⟩
  | cons l lines ih =>
      cases here : Line.isExamples l.text with
      | true => exact ⟨[], l, lines ++ [marker], List.forall_mem_nil _, here, fun rest => by simp⟩
      | false =>
          obtain ⟨steps, first, inner, plain, found, whole⟩ := ih
          refine ⟨l :: steps, first, inner, List.forall_mem_cons.mpr ⟨here, plain⟩, found, fun rest => ?_⟩
          rw [List.cons_append, whole, List.cons_append]

theorem exampleLines_append (lines more : List NumberedLine) :
    exampleLines (lines ++ more) = exampleLines lines ++ exampleLines more := by
  simp [exampleLines]

/-- Of an outline with a marker, only the examples hang on what stands below the marker. -/
theorem readScenario?_table (file : SourcePath) {above : List NumberedLine} {title marker : NumberedLine}
    {kind : ScenarioKind} {name : Text} (plain : ∀ l ∈ above, isTitle l.text = false)
    (titled : Line.scenarioTitle? title.text = some (kind, name)) (outline : kind.isOutline = true)
    (marked : Line.isExamples marker.text = true) (body : List NumberedLine) :
    ∃ (s : Scenario) (lead : List Text), s.kind = kind ∧ s.card.location = ⟨file, title.number⟩ ∧
      ∀ rest, readScenario? file (above ++ title :: (body ++ marker :: rest)) =
        some { s with examples := lead ++ exampleLines rest } := by
  obtain ⟨steps, first, inner, unmarked, found, split⟩ := exists_first_marker marked body
  obtain ⟨alone, known, kinds, location, -⟩ :=
    readScenario?_examples file plain titled outline unmarked found []
  refine ⟨{ alone with tags := tagsOf above }, exampleLines (first :: inner), kinds, location, fun rest => ?_⟩
  obtain ⟨same, read, -, -, scenario⟩ :=
    readScenario?_examples file plain titled outline unmarked found (inner ++ rest)
  cases Option.some.inj (known.symm.trans read)
  rw [split, scenario, ← List.cons_append, exampleLines_append]

/-- A title below an outline takes what waits for it out of the examples. All else in the outline stays. -/
theorem blocks_append (file : SourcePath) (top : List NumberedLine) {title marker : NumberedLine}
    {body rest : List NumberedLine} {kind : ScenarioKind} {name : Text}
    (titled : Line.scenarioTitle? title.text = some (kind, name)) (outline : kind.isOutline = true)
    (untitled : ∀ l ∈ body ++ marker :: rest, isTitle l.text = false)
    (marked : Line.isExamples marker.text = true) :
    ∃ (done : List Scenario) (s : Scenario) (kept : List Text), s.kind = kind ∧
      s.card.location = ⟨file, title.number⟩ ∧ s.examples = kept ++ exampleLines (heading rest) ∧
      (segments (top ++ title :: (body ++ marker :: rest))).filterMap (readScenario? file) = done ++ [s] ∧
      ∀ (next : NumberedLine) (more : List NumberedLine) (kind' : ScenarioKind) (name' : Text),
        Line.scenarioTitle? next.text = some (kind', name') →
        ∃ b others, b.kind = kind' ∧ b.card.location = ⟨file, next.number⟩ ∧ b.tags = tagsOf (heading rest) ∧
          (segments (top ++ title :: (body ++ marker :: rest ++ next :: more))).filterMap (readScenario? file) =
            done ++ { s with examples := kept } :: b :: others := by
  obtain ⟨done, above, plain, start⟩ :=
    segmentsFrom_title (isTitle_of_scenarioTitle? titled) top none [] (List.forall_mem_nil _)
  have plain' : ∀ l ∈ above.reverse, isTitle l.text = false := by simpa using plain
  obtain ⟨s, lead, kinds, location, read⟩ :=
    readScenario?_table file plain' titled outline marked body
  obtain ⟨own, whole⟩ := heading_suffix rest
  have examples : lead ++ exampleLines rest = lead ++ exampleLines own ++ exampleLines (heading rest) := by
    rw [List.append_assoc, ← exampleLines_append, whole]
  refine ⟨done.filterMap (readScenario? file), { s with examples := lead ++ exampleLines rest },
    lead ++ exampleLines own, kinds, location, examples, ?_, fun next more kind' name' titled' => ?_⟩
  · rw [segments, start, segmentsFrom_of_untitled untitled]
    simp [read]
  · -- The segment of the outline ends where the heading of the next title begins.
    obtain ⟨cut, parts, next_segments⟩ :=
      segmentsFrom_heading untitled (isTitle_of_scenarioTitle? titled') more (title :: above) []
    have alike : heading (body ++ marker :: rest) = heading rest :=
      heading_append_settled (settles_of_isExamples marked) body rest
    change body ++ marker :: rest = cut ++ heading (body ++ marker :: rest) at parts
    change segmentsFrom (some (title :: above)) [] _ =
      _ :: segmentsFrom (some (next :: (heading (body ++ marker :: rest)).reverse)) [] more at next_segments
    obtain rfl : cut = body ++ marker :: own := by
      refine List.append_cancel_right (?_ : _ ++ heading rest = _ ++ heading rest)
      rw [← alike, ← parts, alike]
      simp [whole]
    obtain ⟨below, others, cut⟩ := segmentsFrom_some more []
    have first := cut (next :: (heading rest).reverse)
    rw [List.reverse_cons, List.reverse_reverse, List.append_assoc, List.singleton_append] at first
    have unheaded : ∀ l ∈ heading rest, isTitle l.text = false := fun l => heading_untitled
    obtain ⟨b, block, kinds', location', tags⟩ := exists_readScenario? file unheaded titled' below
    refine ⟨b, others.filterMap (readScenario? file), kinds', location', tags, ?_⟩
    rw [segments, start, next_segments, alike, first, List.filterMap_append, List.reverse_cons,
      List.append_assoc, List.singleton_append]
    simp only [List.filterMap_cons, read, block]

/-! ## Features -/

theorem foldl_addBlock_scenarios (f : Feature) (ss : List Scenario) :
    (ss.foldl addBlock f).tags = f.tags ∧ ∃ later, (ss.foldl addBlock f).scenarios = f.scenarios ++ later ∧
      ∀ s ∈ ss.head?, s.kind ≠ .background → { s with tags := s.tags ++ f.tags } ∈ later.head? := by
  refine ⟨tags_foldl_addBlock f ss, _, scenarios_foldl_addBlock f ss, fun s first scenario => ?_⟩
  obtain ⟨later, rfl⟩ := List.head?_eq_some_iff.mp first
  rw [List.filter_cons_of_pos (by simpa using scenario)]
  rfl

/-- An outline at the end of a feature file, with a table of examples below its last marker. -/
structure LastOutline where
  above : List Text
  title : Text
  kind : ScenarioKind
  name : Text
  body : List Text
  marker : Text
  rest : List Text
  headed : ∃ line ∈ above, (Line.featureTitle? line).isSome = true
  titled : Line.scenarioTitle? title = some (kind, name)
  outline : kind.isOutline = true
  untitled : ∀ line ∈ body, isTitle line = false
  marked : Line.isExamples marker = true
  table : ∀ line ∈ rest, Line.inTable line = true

namespace LastOutline

open NumberedLine (countFrom)

def lines (o : LastOutline) : List Text := o.above ++ o.title :: (o.body ++ o.marker :: o.rest)

theorem exists_blocks (o : LastOutline) (file : SourcePath) (single : ∀ line ∈ o.lines, '\n' ∉ line) :
    ∃ (f : Feature) (s : Scenario) (kept : List Text), s.kind = o.kind ∧
      s.card.location = ⟨file, 1 + o.above.length⟩ ∧
      s.examples = kept ++ ((waiting o.rest).map trim).filter (fun line => !line.isEmpty) ∧
      (∀ t, Text.lines t = o.lines → ofText file t = addBlock f s) ∧
      ∀ title more kind name t, Line.scenarioTitle? title = some (kind, name) →
        Text.lines t = o.lines ++ title :: more →
        ∃ b others, b.kind = kind ∧ b.card.location = ⟨file, 1 + o.lines.length⟩ ∧
          b.tags = ((waiting o.rest).filter fun line => line.contains '@').map trim ∧
          ofText file t = (b :: others).foldl addBlock (addBlock f { s with examples := kept }) := by
  let title : NumberedLine := ⟨1 + o.above.length, o.title⟩
  let body := countFrom (title.number + 1) o.body
  let marker : NumberedLine := ⟨title.number + 1 + o.body.length, o.marker⟩
  let rest := countFrom (marker.number + 1) o.rest
  have numbered (more : List Text) : countFrom 1 (o.lines ++ more) = countFrom 1 o.above ++ title :: (body ++
      marker :: rest ++ countFrom (1 + o.lines.length) more) := by
    rw [NumberedLine.countFrom_append, lines, NumberedLine.countFrom_append, countFrom,
      NumberedLine.countFrom_append, countFrom]
    simp [title, body, marker, rest]
  have titled : Line.scenarioTitle? title.text = some (o.kind, o.name) := o.titled
  have isTitle_title : isTitle title.text = true := isTitle_of_scenarioTitle? titled
  have header (more : List Text) : readHeader file (countFrom 1 (o.lines ++ more)) =
      ((readHeader file (countFrom 1 o.above)).1, (readHeader file (countFrom 1 o.above)).2 ++
        title :: (body ++ marker :: rest ++ countFrom (1 + o.lines.length) more)) := by
    rw [numbered]
    exact readHeader_append file (NumberedLine.exists_mem_countFrom 1 o.headed)
      (endsName_of_isTitle isTitle_title) _
  have table : ∀ l ∈ rest, Line.inTable l.text = true ∧ '\n' ∉ l.text := by
    intro l member
    have inside := NumberedLine.mem_of_mem_countFrom member
    exact ⟨o.table l.text inside, single l.text (by simp [lines, inside])⟩
  have untitled : ∀ l ∈ body ++ marker :: rest, isTitle l.text = false := by
    refine List.forall_mem_append.mpr ⟨fun l member => ?_, List.forall_mem_cons.mpr ⟨?_, fun l member => ?_⟩⟩
    · exact o.untitled l.text (NumberedLine.mem_of_mem_countFrom member)
    · rw [isTitle, (Line.kind_of_isExamples o.marked).1]
      rfl
    · exact isTitle_of_inTable (table l member).1 (table l member).2
  have texts : (heading rest).map NumberedLine.text = waiting o.rest := by
    rw [heading_texts table, NumberedLine.countFrom_texts]
  have waits : ∀ l ∈ heading rest, Line.isRow l.text = false := by
    intro l member
    have inside : l.text ∈ waiting o.rest := texts ▸ List.mem_map_of_mem member
    exact isRow_of_mem_waiting inside
  have table' : ∀ l ∈ heading rest, Line.inTable l.text = true ∧ '\n' ∉ l.text :=
    fun l member => table l ((heading_suffix rest).subset member)
  obtain ⟨done, s, kept, kind, location, examples, last, followed⟩ :=
    blocks_append file (readHeader file (countFrom 1 o.above)).2 titled o.outline untitled o.marked
  refine ⟨done.foldl addBlock (readHeader file (countFrom 1 o.above)).1, s, kept, kind, location, ?_, ?_, ?_⟩
  · rw [examples, exampleLines_table table' waits, texts]
  · intro t lines
    have all := header []
    rw [List.append_nil, countFrom, List.append_nil] at all
    rw [ofText_eq, NumberedLine.ofText, lines, all, last, List.foldl_append]
    rfl
  · intro title' more kind' name' t titled' lines
    obtain ⟨b, others, bKind, bLocation, bTags, blocks⟩ :=
      followed ⟨1 + o.lines.length, title'⟩ (countFrom (1 + o.lines.length + 1) more) kind' name' titled'
    refine ⟨b, others, bKind, bLocation, ?_, ?_⟩
    · rw [bTags, tagsOf_table table' waits, texts]
    · rw [ofText_eq, NumberedLine.ofText, lines, header, countFrom, blocks, List.foldl_append]
      rfl

end LastOutline

/-- A title below the last outline takes the lines of its table that wait for it, and those that mention `@` become
tags of the new block. If there are none the outline stays as it is, and the tags are those of the feature. -/
theorem ofText_append_lastOutline (file : SourcePath) (o : LastOutline) {title name : Text} {kind : ScenarioKind}
    (titled : Line.scenarioTitle? title = some (kind, name)) (more : List Text) {t t' : Text}
    (lines : Text.lines t = o.lines) (followed : Text.lines t' = o.lines ++ title :: more) :
    ∃ (earlier later : List Scenario) (s : Scenario) (kept : List Text),
      (ofText file t).scenarios = earlier ++ [s] ∧
      (ofText file t').scenarios = earlier ++ { s with examples := kept } :: later ∧
      (ofText file t').tags = (ofText file t).tags ∧
      s.kind = o.kind ∧ s.card.location = ⟨file, 1 + o.above.length⟩ ∧
      s.examples = kept ++ ((waiting o.rest).map trim).filter (fun line => !line.isEmpty) ∧
      (kept = s.examples ↔ ∀ line ∈ belowRows o.rest, '@' ∉ line) ∧
      (kind ≠ .background → ∃ b ∈ later.head?, b.kind = kind ∧ b.card.location = ⟨file, 1 + o.lines.length⟩ ∧
        b.tags = ((waiting o.rest).filter fun line => line.contains '@').map trim ++ (ofText file t).tags ∧
        (b.tags = (ofText file t).tags ↔ ∀ line ∈ belowRows o.rest, '@' ∉ line)) := by
  have single : ∀ line ∈ o.lines, '\n' ∉ line := fun line member => not_mem_of_mem_lines (lines ▸ member)
  obtain ⟨f, s, kept, sKind, location, examples, alone, blocks⟩ := o.exists_blocks file single
  obtain ⟨b, others, bKind, bLocation, bTags, all⟩ := blocks title more kind name t' titled followed
  have scenario : s.kind ≠ .background := by
    rw [sKind]
    intro background
    have outline := o.outline
    rw [background] at outline
    cases outline
  have read : ofText file t = { f with scenarios := f.scenarios ++ [{ s with tags := s.tags ++ f.tags }] } := by
    rw [alone t lines, addBlock, if_neg scenario]
  have read' : ofText file t' = others.foldl addBlock (addBlock { f with scenarios := f.scenarios ++
      [{ s with tags := s.tags ++ f.tags, examples := kept }] } b) := by
    rw [all, List.foldl_cons, addBlock.eq_def f, if_neg scenario]
  obtain ⟨tags, later, scenarios, first⟩ := foldl_addBlock_scenarios { f with scenarios := f.scenarios ++
    [{ s with tags := s.tags ++ f.tags, examples := kept }] } (b :: others)
  rw [List.foldl_cons, ← read'] at tags scenarios
  refine ⟨f.scenarios, later, { s with tags := s.tags ++ f.tags }, kept, ?_, ?_, ?_, sKind, location, examples,
    ?_, fun ordinary => ?_⟩
  · rw [read]
  · simpa using scenarios
  · rw [tags, read]
  · rw [← (waiting_none_iff o.rest).1, examples]
    simp
  · have unqualified : ((waiting o.rest).filter fun line => line.contains '@').map trim ++ (ofText file t).tags =
        (ofText file t).tags ↔ ∀ line ∈ belowRows o.rest, '@' ∉ line := by
      rw [← (waiting_none_iff o.rest).2, List.append_left_eq_self]
    have shown := first b rfl (bKind ▸ ordinary)
    refine ⟨_, shown, bKind, bLocation, ?_, ?_⟩
    · rw [read, bTags]
    · rw [← unqualified, read, bTags]

/-- An address is commented out above the last row, and a name below it. -/
def postLines : LastOutline where
  above := ["@mail", "Feature: Mail"]
  title := "Scenario Template: Post"
  kind := .template
  name := "Post"
  body := ["Given <to>", "Examples:", "| to |", "# @late"]
  marker := "Examples: more"
  rest := ["| to |", "# | you@home |", "| me |", "", "# | you |"]
  headed := ⟨"Feature: Mail", .tail _ (.head _), by decide +kernel⟩
  titled := by decide +kernel
  outline := rfl
  untitled := by decide +kernel
  marked := by decide +kernel
  table := by decide +kernel

def readLines : ScenarioLines where
  title := "Scenario: Read"
  rest := ["Given mail"]
  kind := .scenario
  name := "Read"
  titled := by decide +kernel
  scenario := by decide
  untitled := by decide +kernel

theorem ofText_append_lastOutline_post :
    Text.lines (join ['\n'] postLines.lines) = postLines.lines ∧
      Text.lines (join ['\n'] (postLines.lines ++ readLines.lines)) = postLines.lines ++ readLines.lines ∧
      ∃ (earlier later : List Scenario) (s b : Scenario),
        (ofText ⟨"mail"⟩ (join ['\n'] postLines.lines)).scenarios = earlier ++ [s] ∧
        (ofText ⟨"mail"⟩ (join ['\n'] (postLines.lines ++ readLines.lines))).scenarios =
          earlier ++ s :: b :: later ∧ b.tags = ["@mail".toList] := by
  have lines : Text.lines (join ['\n'] postLines.lines) = postLines.lines := by decide +kernel
  have followed : Text.lines (join ['\n'] (postLines.lines ++ readLines.lines)) =
      postLines.lines ++ readLines.lines := by decide +kernel
  refine ⟨lines, followed, ?_⟩
  have unmentioned : ∀ line ∈ belowRows postLines.rest, '@' ∉ line := by decide +kernel
  have tags : (ofText ⟨"mail"⟩ (join ['\n'] postLines.lines)).tags = ["@mail".toList] := by decide +kernel
  obtain ⟨earlier, later, s, kept, before, after, -, -, -, -, same, next⟩ :=
    ofText_append_lastOutline ⟨"mail"⟩ postLines readLines.titled readLines.rest lines followed
  obtain ⟨b, first, -, -, -, own⟩ := next (by decide)
  obtain ⟨_, rfl⟩ := List.head?_eq_some_iff.mp first
  rw [same.mpr unmentioned] at after
  exact ⟨earlier, _, s, b, before, after, tags ▸ own.mpr unmentioned⟩

/-- An address is commented out below the last row. -/
def sendLines : LastOutline where
  above := ["@mail", "Feature: Mail"]
  title := "Scenario Template: Send"
  kind := .template
  name := "Send"
  body := ["Given <to>"]
  marker := "Examples: all"
  rest := ["| to |", "| me |", "# | you@home |"]
  headed := ⟨"Feature: Mail", .tail _ (.head _), by decide +kernel⟩
  titled := by decide +kernel
  outline := rfl
  untitled := by decide +kernel
  marked := by decide +kernel
  table := by decide +kernel

/-- The row that is commented out becomes a tag of the scenario below the outline. -/
theorem ofText_append_mentioned :
    Text.lines (join ['\n'] sendLines.lines) = sendLines.lines ∧
      Text.lines (join ['\n'] (sendLines.lines ++ readLines.lines)) = sendLines.lines ++ readLines.lines ∧
      (ofText ⟨"mail.feature"⟩ (join ['\n'] sendLines.lines)).scenarios.map (fun s =>
          (s.card.location.line, s.examples, s.tags)) =
        [(3, ["| to |".toList, "| me |".toList, "# | you@home |".toList], ["@mail".toList])] ∧
      (ofText ⟨"mail.feature"⟩ (join ['\n'] (sendLines.lines ++ readLines.lines))).scenarios.map
          (fun s => (s.card.location.line, s.examples, s.tags)) =
        [(3, ["| to |".toList, "| me |".toList], ["@mail".toList]),
         (9, [], ["# | you@home |".toList, "@mail".toList])] := by
  refine ⟨by decide +kernel, by decide +kernel, by decide +kernel, by decide +kernel⟩

end Feature

end SuiteAudit
