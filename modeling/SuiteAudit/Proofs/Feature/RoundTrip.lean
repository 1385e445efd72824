import SuiteAudit.Proofs.Feature.Draft
import SuiteAudit.Proofs.Feature.StepLines

/-!
# Reading what is written

The lines of a draft, read as a feature, give what the draft says. The segments of a feature body are
its blocks (`segments_flatten`), and a block, its tags, steps and examples are read back with their
lines (`Block.readScenario?_lines`).
-/

namespace SuiteAudit

open Text

namespace Feature

/-! ## Segments -/

/-- Tag lines, a title, and lines that are neither. -/
def IsSegment (segment : List NumberedLine) : Prop :=
  ∃ above title body, segment = above ++ title :: body ∧
    (∀ l ∈ above, isTitle l.text = false ∧ Line.isTags l.text = true) ∧ isTitle title.text = true ∧
    ∀ l ∈ body, isTitle l.text = false ∧ Line.isTags l.text = false

theorem segmentsFrom_above {above : List NumberedLine}
    (tagged : ∀ l ∈ above, isTitle l.text = false ∧ Line.isTags l.text = true)
    (current : Option (List NumberedLine)) (pending rest : List NumberedLine) :
    segmentsFrom current pending (above ++ rest) =
      segmentsFrom current (above.reverse ++ pending) rest := by
  induction above generalizing pending with
  | nil => rfl
  | cons l above ih =>
      have first := tagged l List.mem_cons_self
      have later := ih fun l' member => tagged l' (List.mem_cons_of_mem l member)
      simp [segmentsFrom, first, later]

theorem segmentsFrom_body {body : List NumberedLine}
    (plain : ∀ l ∈ body, isTitle l.text = false ∧ Line.isTags l.text = false)
    (segment rest : List NumberedLine) :
    segmentsFrom (some segment) [] (body ++ rest) =
      segmentsFrom (some (body.reverse ++ segment)) [] rest := by
  induction body generalizing segment with
  | nil => rfl
  | cons l body ih =>
      have first := plain l List.mem_cons_self
      have later := ih fun l' member => plain l' (List.mem_cons_of_mem l member)
      simp [segmentsFrom, first, later]

theorem segmentsFrom_segment {segment : List NumberedLine} (shape : IsSegment segment)
    (current : Option (List NumberedLine)) (rest : List NumberedLine) :
    segmentsFrom current [] (segment ++ rest) =
      (current.map List.reverse).toList ++ segmentsFrom (some segment.reverse) [] rest := by
  obtain ⟨above, title, body, rfl, tagged, isTitle, plain⟩ := shape
  rw [List.append_assoc, segmentsFrom_above tagged, List.cons_append, segmentsFrom, if_pos isTitle,
    segmentsFrom_body plain]
  simp

theorem segmentsFrom_flatten {ss : List (List NumberedLine)} (shape : ∀ s ∈ ss, IsSegment s)
    (current : Option (List NumberedLine)) :
    segmentsFrom current [] ss.flatten = (current.map List.reverse).toList ++ ss := by
  induction ss generalizing current with
  | nil => cases current <;> rfl
  | cons s ss ih =>
      rw [List.flatten_cons, segmentsFrom_segment (shape s List.mem_cons_self),
        ih fun s' member => shape s' (List.mem_cons_of_mem s member)]
      simp

theorem segments_flatten {ss : List (List NumberedLine)} (shape : ∀ s ∈ ss, IsSegment s) :
    segments ss.flatten = ss := segmentsFrom_flatten shape none

/-! ## Names -/

theorem readDescription_of_endsName {lines : List NumberedLine}
    (stop : ∀ l ∈ lines.head?, endsName (trim l.text) = true) :
    readDescription lines = ([], lines) := by
  cases lines with
  | nil => rfl
  | cons l lines =>
      have ends := stop l rfl
      have filled : (trim l.text).isEmpty = false := by
        cases text : trim l.text with
        | nil =>
            rw [text] at ends
            cases ends
        | cons c t => rfl
      simp [readDescription, ends, filled]

theorem readName_of_endsName {lines : List NumberedLine}
    (stop : ∀ l ∈ lines.head?, endsName (trim l.text) = true) (title : Text) :
    readName title lines = (title, lines) := by
  rw [readName, readDescription_of_endsName stop]
  cases title <;> rfl

/-! ## Blocks of a feature -/

theorem foldl_addBlock {ss : List Scenario} (scenarios : ∀ s ∈ ss, s.kind ≠ .background) (f : Feature) :
    ss.foldl addBlock f = { f with
      scenarios := f.scenarios ++ ss.map fun s => { s with tags := s.tags ++ f.tags } } := by
  induction ss generalizing f with
  | nil => simp
  | cons s ss ih =>
      have first := scenarios s List.mem_cons_self
      rw [List.foldl_cons, ih fun s' member => scenarios s' (List.mem_cons_of_mem s member)]
      simp [addBlock, first]

end Feature

namespace Draft

open NumberedLine (countFrom countFrom_append)

theorem endsName_head_countFrom {lines : List Text} (n : Nat)
    (stop : ∀ line ∈ lines.head?, SuiteAudit.Feature.endsName (trim line) = true) :
    ∀ l ∈ (countFrom n lines).head?, SuiteAudit.Feature.endsName (trim l.text) = true := by
  intro l first
  rw [NumberedLine.head?_countFrom] at first
  obtain ⟨line, found, rfl⟩ := Option.map_eq_some_iff.mp first
  exact stop line found

/-! ## Steps and examples -/

theorem Step.read_line (s : Step) {r : SuiteAudit.Feature.StepReading} (outside : r.inDocString = false)
    (n : Nat) : r.read ⟨n, s.line⟩ = { r with steps := (s.line, n) :: r.steps } := by
  obtain ⟨-, -, -, fence, tag, row, empty⟩ := s.line_kind
  simp [SuiteAudit.Feature.StepReading.read, s.trim_line, fence, tag, row, empty, outside]

theorem Step.foldl_read (steps : List Step) (n : Nat) {r : SuiteAudit.Feature.StepReading}
    (outside : r.inDocString = false) :
    (countFrom n (steps.map Step.line)).foldl SuiteAudit.Feature.StepReading.read r =
      { r with
        steps := ((countFrom n (steps.map Step.line)).map fun l => (l.text, l.number)).reverse ++
          r.steps } := by
  induction steps generalizing n r with
  | nil => rfl
  | cons s steps ih =>
      simp only [List.map_cons, countFrom, List.foldl_cons]
      rw [s.read_line outside, ih]
      · simp
      · exact outside

theorem Step.withSteps_lines (s : SuiteAudit.Scenario) (n : Nat) (steps : List Step)
    (tables : s.tables = []) :
    SuiteAudit.Feature.withSteps s (countFrom n (steps.map Step.line)) =
      { s with steps := steps.map Step.line, stepLines := List.range' n steps.length } := by
  have texts := NumberedLine.countFrom_texts n (steps.map Step.line)
  have numbers := NumberedLine.countFrom_numbers n (steps.map Step.line)
  rw [List.length_map] at numbers
  rw [SuiteAudit.Feature.withSteps, Step.foldl_read steps n rfl]
  simp [Function.comp_def, texts, numbers, tables]

namespace Block

theorem exampleLines_countFrom (b : Block) (n : Nat) :
    SuiteAudit.Feature.exampleLines (countFrom n b.exampleLines) = (b.rows?.getD []).map Row.text := by
  have trimmed : ((countFrom n b.exampleLines).map fun l => trim l.text) =
      b.exampleLines.map trim := by
    have texts := NumberedLine.countFrom_texts n b.exampleLines
    conv_rhs => rw [← texts, List.map_map]
    rfl
  rw [SuiteAudit.Feature.exampleLines, trimmed, exampleLines]
  cases b.rows? with
  | none => rfl
  | some rows =>
      have texts : (rows.map Row.text).map trim = rows.map Row.text := by
        simp [Function.comp_def, Row.trim_text]
      have title : trim examplesTitle = examplesTitle := by decide
      have kind : Line.isComment examplesTitle = false ∧ Line.isRow examplesTitle = false := by decide
      have kept : ∀ line ∈ rows.map Row.text, (Line.isComment line || Line.isRow line) = true := by
        intro line member
        obtain ⟨r, -, rfl⟩ := List.mem_map.mp member
        rw [r.isRow_text, Bool.or_true]
      rw [List.map_cons, texts, title, List.filter_cons_of_neg (by simp [kind]),
        List.filter_eq_self.mpr kept]
      rfl

theorem takeWhile_body (b : Block) (n : Nat) :
    ((countFrom n b.body).takeWhile fun l => !Line.isExamples l.text) =
      countFrom n (b.steps.map Step.line) := by
  have steps : ∀ l ∈ countFrom n (b.steps.map Step.line), (!Line.isExamples l.text) = true := by
    intro l member
    obtain ⟨s, -, same⟩ := List.mem_map.mp (NumberedLine.mem_of_mem_countFrom member)
    obtain ⟨-, -, examples, -⟩ := s.line_kind
    rw [← same, examples]
    rfl
  rw [body, countFrom_append, List.takeWhile_append_of_pos steps, exampleLines]
  cases b.rows? with
  | none => simp [countFrom]
  | some rows =>
      have title : Line.isExamples examplesTitle = true := by decide
      simp [countFrom, title]

theorem drop_body (b : Block) (n : Nat) :
    (countFrom n b.body).drop (countFrom n (b.steps.map Step.line)).length =
      countFrom (n + b.steps.length) b.exampleLines := by
  rw [body, countFrom_append, List.drop_left, List.length_map]

theorem readScenario?_lines (file : SourcePath) (n : Nat) (b : Block) :
    SuiteAudit.Feature.readScenario? file (countFrom n b.lines) = some (b.node file n) := by
  have untitled : ∀ l ∈ countFrom n (tagLine b.tags), (!SuiteAudit.Feature.isTitle l.text) = true := by
    intro l member
    obtain ⟨title, -⟩ := tagLine_kind (NumberedLine.mem_of_mem_countFrom member)
    rw [title]
    rfl
  have title := scenarioTitle?_titleLine b.kind b.name
  have titled := isTitle_titleLine b.kind b.name
  have stop := endsName_head_countFrom (n + (tagLine b.tags).length + 1) b.body_head
  rw [lines, countFrom_append, countFrom, SuiteAudit.Feature.readScenario?,
    List.takeWhile_append_of_pos untitled, List.takeWhile_cons_of_neg (by simp [titled]),
    List.append_nil, List.drop_left]
  simp only [title, SuiteAudit.Feature.readName_of_endsName stop, takeWhile_body, drop_body,
    exampleLines_countFrom, tagsOf_tagLine, Step.withSteps_lines]
  cases rows : b.rows? with
  | none => simp [node, rows]
  | some rs =>
      have kind : b.kind.isOutline = true := by
        rw [← b.matching, rows]
        rfl
      simp [kind, node, rows]

/-! ## Blocks one below the other -/

/-- The numbered lines of blocks that are written one below the other from line `n` on. -/
def numbered : (n : Nat) → List Block → List (List NumberedLine)
  | _, [] => []
  | n, b :: bs => countFrom n b.lines :: numbered (n + b.lines.length) bs

theorem countFrom_flatMap_lines (n : Nat) (bs : List Block) :
    countFrom n (bs.flatMap lines) = (numbered n bs).flatten := by
  induction bs generalizing n with
  | nil => rfl
  | cons b bs ih => rw [List.flatMap_cons, countFrom_append, ih, numbered, List.flatten_cons]

theorem isSegment_countFrom (n : Nat) (b : Block) :
    SuiteAudit.Feature.IsSegment (countFrom n b.lines) := by
  refine ⟨countFrom n (tagLine b.tags), ⟨n + (tagLine b.tags).length, titleLine b.kind.text b.name⟩,
    countFrom (n + (tagLine b.tags).length + 1) b.body, ?_, ?_, ?_, ?_⟩
  · rw [lines, countFrom_append, countFrom]
  · intro l member
    obtain ⟨title, tags, -⟩ := tagLine_kind (NumberedLine.mem_of_mem_countFrom member)
    exact ⟨title, tags⟩
  · exact isTitle_titleLine b.kind b.name
  · intro l member
    exact b.body_kind (NumberedLine.mem_of_mem_countFrom member)

theorem isSegment_of_mem_numbered {n : Nat} {bs : List Block} :
    ∀ segment ∈ numbered n bs, SuiteAudit.Feature.IsSegment segment := by
  induction bs generalizing n with
  | nil => simp [numbered]
  | cons b bs ih =>
      intro segment member
      rcases List.mem_cons.mp member with rfl | later
      · exact b.isSegment_countFrom n
      · exact ih segment later

theorem filterMap_numbered (file : SourcePath) (n : Nat) (bs : List Block) :
    (numbered n bs).filterMap (SuiteAudit.Feature.readScenario? file) = nodes file n bs := by
  induction bs generalizing n with
  | nil => rfl
  | cons b bs ih =>
      rw [numbered, List.filterMap_cons_some (b.readScenario?_lines file n), ih, nodes]

theorem readScenarios_lines (file : SourcePath) (n : Nat) (bs : List Block) :
    (SuiteAudit.Feature.segments (countFrom n (bs.flatMap lines))).filterMap
      (SuiteAudit.Feature.readScenario? file) = nodes file n bs := by
  rw [countFrom_flatMap_lines, SuiteAudit.Feature.segments_flatten isSegment_of_mem_numbered,
    filterMap_numbered]

end Block

/-! ## Features -/

namespace Feature

theorem blocks_head (d : Feature) :
    ∀ line ∈ (d.blocks.flatMap Block.lines).head?, SuiteAudit.Feature.endsName (trim line) = true := by
  cases d.blocks with
  | nil => simp
  | cons b bs =>
      intro line first
      apply b.lines_head
      have filled : b.lines ≠ [] := by simp [Block.lines]
      rwa [List.flatMap_cons, List.head?_append_of_ne_nil _ filled] at first

theorem readHeader_lines (file : SourcePath) (d : Feature) :
    SuiteAudit.Feature.readHeader file (countFrom 1 d.lines) =
      ({ card := { location := ⟨file, (tagLine d.tags).length + 1⟩ }, name := d.name.text,
         tags := d.tags.map Tag.text },
        countFrom ((tagLine d.tags).length + 1 + 1) (d.blocks.flatMap Block.lines)) := by
  have untitled : ∀ l ∈ countFrom 1 (tagLine d.tags), (Line.featureTitle? l.text).isNone = true := by
    intro l member
    obtain ⟨-, -, title, -⟩ := tagLine_kind (NumberedLine.mem_of_mem_countFrom member)
    rw [title]
    rfl
  have title := featureTitle?_titleLine d.name
  have titled : ¬(Line.featureTitle? (titleLine "Feature" d.name)).isNone = true := by
    rw [title]
    exact Bool.false_ne_true
  have stop := endsName_head_countFrom ((tagLine d.tags).length + 1 + 1) d.blocks_head
  rw [lines, countFrom_append, countFrom, SuiteAudit.Feature.readHeader,
    List.takeWhile_append_of_pos untitled, List.takeWhile_cons_of_neg (by exact titled),
    List.append_nil, List.drop_left, Nat.add_comm 1]
  simp only [title, Option.getD_some, SuiteAudit.Feature.readName_of_endsName stop, tagsOf_tagLine]

theorem kind_of_mem_nodes (file : SourcePath) (n : Nat) (scenarios : List Scenario) :
    ∀ s ∈ Block.nodes file n (scenarios.map Scenario.block), s.kind ≠ .background := by
  induction scenarios generalizing n with
  | nil => simp [Block.nodes]
  | cons s scenarios ih =>
      intro node member
      rcases List.mem_cons.mp member with rfl | later
      · cases shape : s.shape <;> simp [Block.node, Scenario.block, Shape.kind, shape]
      · exact ih _ node later

theorem ofText_of_lines {t : Text} {d : Feature} (written : Text.lines t = d.lines)
    (file : SourcePath) : SuiteAudit.Feature.ofText file t = d.node file := by
  have scenarios (n : Nat) :=
    SuiteAudit.Feature.foldl_addBlock (kind_of_mem_nodes file n d.scenarios)
  rw [SuiteAudit.Feature.ofText, NumberedLine.ofText, written, readHeader_lines]
  simp only [Block.readScenarios_lines, blocks]
  cases background : d.background with
  | none => simp [scenarios, node, background]
  | some b =>
      have kind (n : Nat) : (b.block.node file n).kind = .background := rfl
      simp [Block.nodes, SuiteAudit.Feature.addBlock, kind, scenarios, node, background]

/-- A feature that is written line by line, with or without an ending on its last line, is read as what
it says. -/
theorem ofText_written (file : SourcePath) (d : Feature) :
    SuiteAudit.Feature.ofText file (d.lines.flatMap (· ++ ['\n'])) = d.node file ∧
      SuiteAudit.Feature.ofText file (join ['\n'] d.lines) = d.node file := by
  have whole : ∀ line ∈ d.lines, IsLine line := fun _ member => (d.isLine_of_mem_lines member).1
  have last : d.lines.getLast? ≠ some [] := by
    intro found
    exact (d.isLine_of_mem_lines (List.mem_of_getLast? found)).2 rfl
  exact ⟨ofText_of_lines (lines_flatMap whole) file, ofText_of_lines (lines_join whole last) file⟩

theorem solid_of_all {label : Text} (all : (label.all fun c => !isBlank c) = true) :
    ∀ c ∈ label, isBlank c = false := by
  simpa using all

/-- A draft with tags of the feature and of a scenario, a background, an outline with two rows and a
scenario without steps. -/
def checkout : Feature where
  tags := [⟨"shop", by decide +kernel, solid_of_all (by decide +kernel)⟩,
    ⟨"v2", by decide +kernel, solid_of_all (by decide +kernel)⟩]
  name := ⟨"Checkout", by decide +kernel, by decide +kernel⟩
  background := some
    { name := ⟨"A shop", by decide +kernel, by decide +kernel⟩
      steps := [{ text := "a full cart", trimmed := by decide +kernel, oneLine := by decide +kernel,
                  keyword := .given, nonempty := by decide +kernel }] }
  scenarios :=
    [{ tags := [⟨"slow", by decide +kernel, solid_of_all (by decide +kernel)⟩]
       shape := .outline [⟨"method|fee", by decide +kernel⟩, ⟨" card | 0 ", by decide +kernel⟩]
       name := ⟨"Paying by <method>", by decide +kernel, by decide +kernel⟩
       steps := [{ text := "I pay by <method>", trimmed := by decide +kernel,
                   oneLine := by decide +kernel, keyword := .action,
                   nonempty := by decide +kernel }] },
     { tags := [], shape := .plain, name := ⟨"Leaving", by decide +kernel, by decide +kernel⟩,
       steps := [] }]

theorem ofText_written_checkout :
    let t := join ['\n'] ["@shop @v2", "Feature: Checkout", "Background: A shop",
      "Given a full cart", "@slow", "Scenario Outline: Paying by <method>", "When I pay by <method>",
      "Examples:", "|method|fee|", "| card | 0 |", "Scenario: Leaving"]
    let f := SuiteAudit.Feature.ofText ⟨"shop.feature"⟩ t
    join ['\n'] checkout.lines = t ∧ f = checkout.node ⟨"shop.feature"⟩ ∧
      f.tags = ["@shop", "@v2"] ∧
      f.background.map (fun b => (b.card.location.line, b.steps)) =
        some ((3, ["Given a full cart"]) : Nat × List Text) ∧
      (f.scenarios.map fun s => (s.card.location.line, s.tags, s.examples)) =
        ([(6, ["@slow", "@shop", "@v2"], ["|method|fee|", "| card | 0 |"]),
          (11, ["@shop", "@v2"], [])] : List (Nat × List Text × List Text)) := by
  intro t f
  have written : join ['\n'] checkout.lines = t := by decide +kernel
  obtain ⟨-, read⟩ := ofText_written ⟨"shop.feature"⟩ checkout
  rw [written] at read
  refine ⟨written, read, ?_⟩
  simp only [f, read]
  decide +kernel

end Feature

end Draft

end SuiteAudit
