import SuiteAudit.Feature.Reader

/-!
# The lines of a feature

Every block of a feature has lines of its own: the titles and the steps of all blocks, in their
order, are lines of the file in the order of the file (`ofText_ownLines_sublist`), so no line is used
twice, and every block says what its lines say (`ofText_mem_blocks`).
-/

namespace SuiteAudit

namespace NumberedLine

theorem countFrom_numbers (n : Nat) (lines : List Text) :
    (countFrom n lines).map number = List.range' n lines.length := by
  induction lines generalizing n with
  | nil => rfl
  | cons line lines ih => simp [countFrom, List.range'_succ, ih]

theorem countFrom_texts (n : Nat) (lines : List Text) : (countFrom n lines).map text = lines := by
  induction lines generalizing n with
  | nil => rfl
  | cons line lines ih => simp [countFrom, ih]

theorem mem_of_mem_countFrom {n : Nat} {lines : List Text} {l : NumberedLine}
    (member : l ∈ countFrom n lines) : l.text ∈ lines := by
  rw [← countFrom_texts n lines]
  exact List.mem_map_of_mem member

theorem exists_mem_countFrom (n : Nat) {lines : List Text} {p : Text → Prop}
    (found : ∃ line ∈ lines, p line) : ∃ l ∈ countFrom n lines, p l.text := by
  obtain ⟨line, member, holds⟩ := found
  rw [← countFrom_texts n lines] at member
  obtain ⟨l, numbered, rfl⟩ := List.mem_map.mp member
  exact ⟨l, numbered, holds⟩

theorem head?_countFrom (n : Nat) (lines : List Text) :
    (countFrom n lines).head? = lines.head?.map fun t => ⟨n, t⟩ := by
  cases lines <;> rfl

theorem countFrom_append (n : Nat) (lines more : List Text) :
    countFrom n (lines ++ more) = countFrom n lines ++ countFrom (n + lines.length) more := by
  induction lines generalizing n with
  | nil => rfl
  | cons line lines ih => simp [countFrom, ih, Nat.add_assoc, Nat.add_comm 1]

theorem mem_countFrom {n : Nat} {lines : List Text} {l : NumberedLine} :
    l ∈ countFrom n lines ↔ ∃ i, lines[i]? = some l.text ∧ l.number = n + i := by
  induction lines generalizing n with
  | nil => simp [countFrom]
  | cons line lines ih =>
      obtain ⟨number, text⟩ := l
      simp only [countFrom, List.mem_cons, ih, NumberedLine.mk.injEq]
      constructor
      · rintro (⟨rfl, rfl⟩ | ⟨i, found, place⟩)
        · exact ⟨0, rfl, rfl⟩
        · exact ⟨i + 1, found, by omega⟩
      · rintro ⟨i, found, place⟩
        cases i with
        | zero => exact .inl ⟨place, (Option.some.inj found).symm⟩
        | succ i => exact .inr ⟨i, found, by omega⟩

theorem ofText_numbers (t : Text) :
    (ofText t).map number = List.range' 1 (Text.lines t).length :=
  countFrom_numbers 1 _

end NumberedLine

/-- The lines that a block is read from: its title and its steps. -/
def Scenario.ownLines (s : Scenario) : List Nat := s.card.location.line :: s.stepLines

namespace Feature

/-! ## Segments -/

theorem segmentsFrom_some_flatten (segment pending lines : List NumberedLine) :
    (segmentsFrom (some segment) pending lines).flatten =
      segment.reverse ++ (pending.reverse ++ lines) := by
  induction lines generalizing segment pending with
  | nil => simp [segmentsFrom]
  | cons l lines ih =>
      unfold segmentsFrom
      split
      · simp [ih]
      · split
        · simp [ih]
        · simp [ih]

theorem segmentsFrom_none_flatten (pending lines : List NumberedLine) :
    (segmentsFrom none pending lines).flatten <:+ pending.reverse ++ lines := by
  induction lines generalizing pending with
  | nil => simp [segmentsFrom]
  | cons l lines ih =>
      unfold segmentsFrom
      split
      · simp [segmentsFrom_some_flatten]
      · split
        · simpa using ih (l :: pending)
        · exact (ih []).trans ((List.suffix_cons l lines).trans (List.suffix_append _ _))

theorem segments_flatten_suffix (lines : List NumberedLine) : (segments lines).flatten <:+ lines :=
  segmentsFrom_none_flatten [] lines

/-! ## Names -/

theorem readDescription_suffix (lines : List NumberedLine) : (readDescription lines).2 <:+ lines := by
  induction lines with
  | nil => exact List.suffix_rfl
  | cons l lines ih =>
      simp only [readDescription]
      split
      · exact ih.trans (List.suffix_cons l lines)
      · split
        · exact List.suffix_rfl
        · exact ih.trans (List.suffix_cons l lines)

theorem readName_suffix (title : Text) (lines : List NumberedLine) :
    (readName title lines).2 <:+ lines :=
  readDescription_suffix lines

theorem readHeader_suffix (file : SourcePath) (lines : List NumberedLine) :
    (readHeader file lines).2 <:+ lines := by
  simp only [readHeader]
  split
  · exact List.suffix_rfl
  · rename_i title rest found
    have below : title :: rest <:+ lines := by
      rw [← found]
      exact List.drop_suffix _ _
    have body := readName_suffix ((Line.featureTitle? title.text).getD []) rest
    exact body.trans ((List.suffix_cons title rest).trans below)

theorem readHeader_blocks (file : SourcePath) (lines : List NumberedLine) :
    (readHeader file lines).1.blocks = [] := by
  simp only [readHeader]
  split <;> rfl

/-! ## Steps -/

/-- A line that is read as a step is trimmed and keeps its number; any other adds no step. -/
theorem StepReading.read_steps (r : StepReading) (l : NumberedLine) :
    (r.read l).steps = r.steps ∨ (r.read l).steps = (Text.trim l.text, l.number) :: r.steps := by
  simp only [StepReading.read]
  split
  · exact .inl rfl
  · split
    · exact .inl rfl
    · split
      · split
        · exact .inl rfl
        · exact .inl rfl
      · exact .inr rfl

theorem StepReading.foldl_read_steps (lines : List NumberedLine) (r : StepReading) :
    ∃ kept : List NumberedLine, kept.Sublist lines ∧ (lines.foldl StepReading.read r).steps.reverse =
      r.steps.reverse ++ kept.map fun l => (Text.trim l.text, l.number) := by
  induction lines generalizing r with
  | nil => exact ⟨[], List.Sublist.slnil, by simp⟩
  | cons l lines ih =>
      obtain ⟨kept, sublist, steps⟩ := ih (r.read l)
      rw [List.foldl_cons, steps]
      rcases r.read_steps l with same | more
      · exact ⟨kept, sublist.cons l, by rw [same]⟩
      · exact ⟨l :: kept, sublist.cons_cons l, by simp [more]⟩

theorem withSteps_steps (s : Scenario) (lines : List NumberedLine) :
    ∃ kept : List NumberedLine, kept.Sublist lines ∧
      (withSteps s lines).steps = kept.map (fun l => Text.trim l.text) ∧
      (withSteps s lines).stepLines = kept.map NumberedLine.number := by
  obtain ⟨kept, sublist, steps⟩ := StepReading.foldl_read_steps lines {}
  refine ⟨kept, sublist, ?_, ?_⟩
  · simp only [withSteps, steps, List.reverse_nil, List.nil_append, List.map_map]
    rfl
  · simp only [withSteps, steps, List.reverse_nil, List.nil_append, List.map_map]
    rfl

/-! ## Blocks -/

theorem readScenario?_eq_some {file : SourcePath} {segment : List NumberedLine} {s : Scenario}
    (read : readScenario? file segment = some s) :
    ∃ (title : NumberedLine) (kept : List NumberedLine), (title :: kept).Sublist segment ∧
      s.card = { location := ⟨file, title.number⟩ } ∧
      (∃ name, Line.scenarioTitle? title.text = some (s.kind, name)) ∧
      s.steps = kept.map (fun l => Text.trim l.text) ∧
      s.stepLines = kept.map NumberedLine.number := by
  simp only [readScenario?] at read
  split at read
  · cases read
  · rename_i title rest found
    obtain ⟨⟨kind, start⟩, titled, read⟩ := Option.bind_eq_some_iff.mp read
    have below : (title :: rest).Sublist segment := by
      rw [← found]
      exact List.drop_sublist _ _
    let body := (readName start rest).2
    let steps := body.takeWhile fun l => !Line.isExamples l.text
    obtain ⟨kept, sublist, texts, numbers⟩ := withSteps_steps
      { card := { location := ⟨file, title.number⟩ }, name := (readName start rest).1,
        tags := tagsOf (segment.takeWhile fun l => !isTitle l.text), kind } steps
    have inside : kept.Sublist rest :=
      sublist.trans ((List.takeWhile_sublist _).trans (readName_suffix start rest).sublist)
    refine ⟨title, kept, (inside.cons_cons title).trans below, ?_⟩
    have value := (Option.some.inj read).symm
    split at value
    · subst value
      exact ⟨rfl, ⟨start, titled⟩, texts, numbers⟩
    · subst value
      exact ⟨rfl, ⟨start, titled⟩, texts, numbers⟩

theorem readScenario?_ownLines {file : SourcePath} {segment : List NumberedLine} {s : Scenario}
    (read : readScenario? file segment = some s) :
    s.ownLines.Sublist (segment.map NumberedLine.number) := by
  obtain ⟨title, kept, sublist, card, -, -, numbers⟩ := readScenario?_eq_some read
  have lines := sublist.map NumberedLine.number
  rw [List.map_cons] at lines
  rwa [Scenario.ownLines, card, numbers]

theorem filterMap_readScenario?_ownLines (file : SourcePath) (segments : List (List NumberedLine)) :
    ((segments.filterMap (readScenario? file)).flatMap Scenario.ownLines).Sublist
      (segments.flatten.map NumberedLine.number) := by
  induction segments with
  | nil => exact List.Sublist.slnil
  | cons segment segments ih =>
      rw [List.flatten_cons, List.map_append]
      cases read : readScenario? file segment with
      | none =>
          rw [List.filterMap_cons_none read]
          exact ih.trans (List.sublist_append_right _ _)
      | some s =>
          rw [List.filterMap_cons_some read, List.flatMap_cons]
          exact (readScenario?_ownLines read).append ih

/-- A further block is left out or comes last, perhaps with more tags. -/
theorem addBlock_blocks (f : Feature) (s : Scenario) :
    (f.addBlock s).blocks = f.blocks ∨
      ∃ tags, (f.addBlock s).blocks = f.blocks ++ [{ s with tags := tags }] := by
  unfold addBlock
  split
  · split
    · rename_i first
      obtain ⟨none, empty⟩ := Bool.and_eq_true_iff.mp first
      refine .inr ⟨s.tags, ?_⟩
      simp only [blocks, Option.isNone_iff_eq_none.mp none, List.isEmpty_iff.mp empty]
      rfl
    · exact .inl rfl
  · exact .inr ⟨s.tags ++ f.tags, by simp [blocks]⟩

theorem tags_foldl_addBlock (f : Feature) (ss : List Scenario) : (ss.foldl addBlock f).tags = f.tags := by
  have step (f : Feature) (s : Scenario) : (f.addBlock s).tags = f.tags := by
    unfold addBlock
    split
    · split <;> rfl
    · rfl
  induction ss generalizing f with
  | nil => rfl
  | cons s ss ih => rw [List.foldl_cons, ih, step]

/-- The scenarios of a feature are the blocks that are no backgrounds, with the tags of the feature. -/
theorem scenarios_foldl_addBlock (f : Feature) (ss : List Scenario) :
    (ss.foldl addBlock f).scenarios =
      f.scenarios ++ (ss.filter fun s => s.kind ≠ .background).map fun s => { s with tags := s.tags ++ f.tags } := by
  induction ss generalizing f with
  | nil => simp
  | cons s ss ih =>
      rw [List.foldl_cons, ih, addBlock]
      split
      case isTrue background =>
        rw [List.filter_cons_of_neg (by simp [background])]
        split <;> rfl
      case isFalse scenario =>
        rw [List.filter_cons_of_pos (by simp [scenario])]
        simp

theorem foldl_addBlock_ownLines (f : Feature) (ss : List Scenario) :
    ((ss.foldl addBlock f).blocks.flatMap Scenario.ownLines).Sublist
      (f.blocks.flatMap Scenario.ownLines ++ ss.flatMap Scenario.ownLines) := by
  induction ss generalizing f with
  | nil => simp
  | cons s ss ih =>
      rw [List.foldl_cons]
      refine (ih (f.addBlock s)).trans ?_
      rcases f.addBlock_blocks s with same | ⟨tags, more⟩
      · rw [same, List.flatMap_cons]
        exact (List.Sublist.refl _).append (List.sublist_append_right _ _)
      · rw [more]
        simp [Scenario.ownLines]

theorem mem_foldl_addBlock {f : Feature} {ss : List Scenario} {b : Scenario}
    (member : b ∈ (ss.foldl addBlock f).blocks) :
    b ∈ f.blocks ∨ ∃ s ∈ ss, ∃ tags, b = { s with tags := tags } := by
  induction ss generalizing f with
  | nil => exact .inl member
  | cons s ss ih =>
      rcases ih member with old | ⟨s', later, tags, rfl⟩
      · rcases f.addBlock_blocks s with same | ⟨tags, more⟩
        · rw [same] at old
          exact .inl old
        · rw [more, List.mem_append, List.mem_singleton] at old
          exact old.imp id fun equal => ⟨s, by simp, tags, equal⟩
      · exact .inr ⟨s', List.mem_cons_of_mem _ later, tags, rfl⟩

theorem ofText_eq (file : SourcePath) (t : Text) :
    ofText file t =
      ((segments (readHeader file (NumberedLine.ofText t)).2).filterMap (readScenario? file)).foldl
        addBlock (readHeader file (NumberedLine.ofText t)).1 := rfl

theorem segments_readHeader_sublist (file : SourcePath) (lines : List NumberedLine) :
    (segments (readHeader file lines).2).flatten.Sublist lines :=
  (segments_flatten_suffix _).sublist.trans (readHeader_suffix file lines).sublist

theorem ofText_ownLines_sublist (file : SourcePath) (t : Text) :
    ((ofText file t).blocks.flatMap Scenario.ownLines).Sublist
      (List.range' 1 (Text.lines t).length) := by
  rw [← NumberedLine.ofText_numbers, ofText_eq]
  let lines := NumberedLine.ofText t
  let body := (readHeader file lines).2
  have blocks := foldl_addBlock_ownLines (readHeader file lines).1
    ((segments body).filterMap (readScenario? file))
  rw [readHeader_blocks, List.flatMap_nil, List.nil_append] at blocks
  exact blocks.trans ((filterMap_readScenario?_ownLines file _).trans
    ((segments_readHeader_sublist file lines).map _))

theorem ofText_mem_blocks {file : SourcePath} {t : Text} {b : Scenario}
    (member : b ∈ (ofText file t).blocks) :
    ∃ title kept, b.card = { location := ⟨file, title.number⟩ } ∧
      b.steps = kept.map (fun l => Text.trim l.text) ∧
      b.stepLines = kept.map NumberedLine.number ∧
      (title :: kept).Sublist (NumberedLine.ofText t) ∧
      ∃ name, Line.scenarioTitle? title.text = some (b.kind, name) := by
  rw [ofText_eq] at member
  rcases mem_foldl_addBlock member with old | ⟨s, read, tags, rfl⟩
  · rw [readHeader_blocks] at old
    exact absurd old (by simp)
  · obtain ⟨segment, cut, read⟩ := List.mem_filterMap.mp read
    obtain ⟨title, kept, sublist, card, titled, texts, numbers⟩ := readScenario?_eq_some read
    have inFile : segment.Sublist (NumberedLine.ofText t) :=
      (List.sublist_flatten_of_mem cut).trans (segments_readHeader_sublist file _)
    exact ⟨title, kept, card, texts, numbers, sublist.trans inFile, titled⟩

/-- The titles and steps of the blocks are on different lines of the file, in the order of the file. The
title line of a block says its kind, and each of its steps is the line where it is found, trimmed. -/
theorem ofText_ownLines_ascending (file : SourcePath) (t : Text) :
    ((ofText file t).blocks.flatMap Scenario.ownLines).Pairwise (· < ·) ∧
      (∀ n ∈ (ofText file t).blocks.flatMap Scenario.ownLines, 1 ≤ n ∧ n ≤ (Text.lines t).length) ∧
      ∀ b ∈ (ofText file t).blocks,
        (∃ line name, (Text.lines t)[b.card.location.line - 1]? = some line ∧
          Line.scenarioTitle? line = some (b.kind, name)) ∧
        b.steps.length = b.stepLines.length ∧
        ∀ (i : Nat) step, b.steps[i]? = some step → ∃ n line, b.stepLines[i]? = some n ∧
          (Text.lines t)[n - 1]? = some line ∧ step = Text.trim line := by
  have sublist := ofText_ownLines_sublist file t
  refine ⟨(List.pairwise_lt_range' 1).sublist sublist, fun n member => ?_, fun b member => ?_⟩
  · have bounds := List.mem_range'_1.mp (sublist.subset member)
    omega
  · obtain ⟨title, kept, card, texts, numbers, inFile, name, titled⟩ := ofText_mem_blocks member
    have found {l : NumberedLine} (own : l ∈ title :: kept) :
        (Text.lines t)[l.number - 1]? = some l.text := by
      obtain ⟨i, there, place⟩ := NumberedLine.mem_countFrom.mp (inFile.subset own)
      rw [place, Nat.add_sub_cancel_left]
      exact there
    refine ⟨⟨title.text, name, ?_, titled⟩, by rw [texts, numbers, List.length_map, List.length_map],
      fun i step read => ?_⟩
    · rw [card]
      exact found List.mem_cons_self
    · rw [texts, List.getElem?_map, Option.map_eq_some_iff] at read
      obtain ⟨l, place, rfl⟩ := read
      refine ⟨l.number, l.text, ?_, ?_, rfl⟩
      · rw [numbers, List.getElem?_map, place, Option.map_some]
      · exact found (List.mem_cons_of_mem title (List.mem_of_getElem? place))

/-- A feature whose second background is left out, with a doc string before it. -/
def lateBackground : Text :=
  "Feature: Trip\nBackground:\nGiven a bag\n@far\nScenario: Out\n  When I pack\n\"\"\"\nnotes\n\"\"\"\n" ++
    "Background:\nGiven a box\nScenario: Back\nThen I rest".toList

theorem ofText_ownLines_ascending_lateBackground :
    (ofText ⟨"trip"⟩ lateBackground).blocks.flatMap Scenario.ownLines = [2, 3, 5, 6, 12, 13] ∧
      [2, 3, 5, 6, 12, 13].Pairwise (· < ·) ∧
      ∃ b ∈ (ofText ⟨"trip"⟩ lateBackground).blocks, b.steps[0]? = some "When I pack".toList ∧
        ∃ n line, b.stepLines[0]? = some n ∧ (Text.lines lateBackground)[n - 1]? = some line ∧
          "When I pack".toList = Text.trim line := by
  obtain ⟨ascending, -, all⟩ := ofText_ownLines_ascending ⟨"trip"⟩ lateBackground
  have lines : (ofText ⟨"trip"⟩ lateBackground).blocks.flatMap Scenario.ownLines =
      [2, 3, 5, 6, 12, 13] := by decide +kernel
  obtain ⟨b, member, step⟩ : ∃ b ∈ (ofText ⟨"trip"⟩ lateBackground).blocks,
      b.steps[0]? = some "When I pack".toList := by decide +kernel
  rw [lines] at ascending
  exact ⟨lines, ascending, b, member, step, (all b member).2.2 0 _ step⟩

end Feature

end SuiteAudit
