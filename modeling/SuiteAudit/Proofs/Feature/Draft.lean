import SuiteAudit.Feature.Reader
import SuiteAudit.Proofs.Text.Lines

/-!
# Feature drafts

What a feature says, and the plain way to write it down: one item on a line, the tags of a node on the
line above its title, then its steps, and below those of an outline the rows of its examples. `lines`
is what is written, and `node` is what it says, each node with the line it is written on. The lines are
told apart by how they start.
-/

namespace SuiteAudit.Draft

/-! ## Items -/

/-- A tag, without its mark. -/
structure Tag where
  label : Text
  nonempty : label ≠ []
  solid : ∀ c ∈ label, Text.isBlank c = false

/-- A name on one line, perhaps empty. -/
structure Name where
  text : Text
  trimmed : Text.trim text = text
  oneLine : '\n' ∉ text

structure Step extends Name where
  keyword : StepKeyword
  nonempty : text ≠ []

/-- A table row, without its first and its last bar. -/
structure Row where
  inner : Text
  oneLine : '\n' ∉ inner

/-- The forms of a scenario, with the rows of its examples where it has them. -/
inductive Shape
  | plain
  | outline (rows : List Row)
  | template (rows : List Row)

structure Background where
  name : Name
  steps : List Step

structure Scenario where
  tags : List Tag
  shape : Shape
  name : Name
  steps : List Step

structure Feature where
  tags : List Tag
  name : Name
  background : Option Background
  scenarios : List Scenario

/-! ## Lines -/

def Tag.text (t : Tag) : Text := '@' :: t.label

def Step.line (s : Step) : Text := s.keyword.text ++ ' ' :: s.text

def Row.text (r : Row) : Text := '|' :: r.inner ++ ['|']

def Tag.joined (tags : List Tag) : Text := Text.join [' '] (tags.map Tag.text)

/-- The tags of a node, on a line of their own if there are any. -/
def tagLine (tags : List Tag) : List Text := if tags.isEmpty then [] else [Tag.joined tags]

def titleLine (keyword : Text) (name : Name) : Text := keyword ++ ':' :: ' ' :: name.text

def Shape.kind : Shape → ScenarioKind
  | plain => .scenario
  | outline _ => .outline
  | template _ => .template

def Shape.rows? : Shape → Option (List Row)
  | plain => none
  | outline rows | template rows => some rows

/-- A background or a scenario, which differ in their titles only. There are rows, perhaps none, for
the kinds that have examples. -/
structure Block where
  tags : List Tag
  kind : ScenarioKind
  name : Name
  steps : List Step
  rows? : Option (List Row)
  matching : rows?.isSome = kind.isOutline

def Background.block (b : Background) : Block := ⟨[], .background, b.name, b.steps, none, rfl⟩

def Scenario.block (s : Scenario) : Block :=
  ⟨s.tags, s.shape.kind, s.name, s.steps, s.shape.rows?, by cases s.shape <;> rfl⟩

def examplesTitle : Text := "Examples:"

def Block.exampleLines (b : Block) : List Text :=
  match b.rows? with
  | none => []
  | some rows => examplesTitle :: rows.map Row.text

def Block.body (b : Block) : List Text := b.steps.map Step.line ++ b.exampleLines

def Block.lines (b : Block) : List Text :=
  tagLine b.tags ++ titleLine b.kind.text b.name :: b.body

def Feature.blocks (d : Feature) : List Block :=
  (d.background.map Background.block).toList ++ d.scenarios.map Scenario.block

def Feature.lines (d : Feature) : List Text :=
  tagLine d.tags ++ titleLine "Feature" d.name :: d.blocks.flatMap Block.lines

/-! ## Nodes -/

/-- What a block says if its first line has the number `n`. -/
def Block.node (file : SourcePath) (n : Nat) (b : Block) : SuiteAudit.Scenario :=
  let title := n + (tagLine b.tags).length
  { card := { location := ⟨file, title⟩ }
    name := b.name.text
    tags := b.tags.map Tag.text
    kind := b.kind
    steps := b.steps.map Step.line
    stepLines := List.range' (title + 1) b.steps.length
    examples := (b.rows?.getD []).map Row.text }

/-- What blocks say that are written one below the other from line `n` on. -/
def Block.nodes (file : SourcePath) : (n : Nat) → List Block → List SuiteAudit.Scenario
  | _, [] => []
  | n, b :: bs => b.node file n :: nodes file (n + b.lines.length) bs

/-- What a draft says: the background comes first, and the scenarios have the tags of the feature after
their own. -/
def Feature.node (file : SourcePath) (d : Feature) : SuiteAudit.Feature :=
  let title := (tagLine d.tags).length + 1
  let tags := d.tags.map Tag.text
  let first := title + 1 + (d.background.elim 0 fun b => b.block.lines.length)
  { card := { location := ⟨file, title⟩ }
    name := d.name.text
    tags
    background := d.background.map fun b => b.block.node file (title + 1)
    scenarios := (Block.nodes file first (d.scenarios.map Scenario.block)).map fun s =>
      { s with tags := s.tags ++ tags } }

end SuiteAudit.Draft

namespace SuiteAudit

open Text

/-! ## Kinds of lines -/

namespace Line

theorem titleName?_trimEnd (t : Text) : titleName? (trimEnd t) = titleName? t := by
  rw [titleName?, titleName?, trim_trimEnd]

theorem scenarioTitle?_trim (line : Text) : scenarioTitle? (trim line) = scenarioTitle? line := by
  have solid : ∀ k ∈ ScenarioKind.all, (k.text ++ [':']).getLast?.any isBlank = false := by decide
  have title : (ScenarioKind.all.findSome? fun k =>
      (after? (k.text ++ [':']) (trimEnd (trimStart line))).map fun rest => (k, rest)) =
      (ScenarioKind.all.findSome? fun k =>
        (after? (k.text ++ [':']) (trimStart line)).map fun rest => (k, rest)).map
          fun s => (s.1, trimEnd s.2) := findSome?_after?_trimEnd _ solid _
  simp only [scenarioTitle?, trimStart_trim, title]
  cases ScenarioKind.all.findSome? fun k =>
      (after? (k.text ++ [':']) (trimStart line)).map fun rest => (k, rest) with
  | none => rfl
  | some s => simp only [Option.map_some, Option.bind_eq_bind, Option.bind_some, titleName?_trimEnd]

end Line

theorem Feature.beforeComment_append {w : Text} (solid : ∀ c ∈ w, isBlank c = false) (t : Text) :
    beforeComment (w ++ t) = w ++ beforeComment t := by
  induction w with
  | nil => rfl
  | cons c w ih =>
      have rest := ih fun d member => solid d (List.mem_cons_of_mem c member)
      have other : c ≠ ' ' := by
        rintro rfl
        cases solid ' ' List.mem_cons_self
      rw [List.cons_append, beforeComment, rest]
      · rfl
      · intro _ same _
        exact other same

namespace Draft

theorem Name.titleName? (name : Name) : Line.titleName? (' ' :: name.text) = some name.text := by
  have oneLine := hasLineFeed_eq_false.mpr name.oneLine
  simp [Line.titleName?, trim_cons_of_blank (show isBlank ' ' = true from rfl), name.trimmed, oneLine]

theorem scenarioTitle?_titleLine (kind : ScenarioKind) (name : Name) :
    Line.scenarioTitle? (titleLine kind.text name) = some (kind, name.text) := by
  have read : Line.scenarioTitle? (titleLine kind.text name) =
      (Line.titleName? (' ' :: name.text)).bind fun t => some (kind, t) := by
    cases kind <;> rfl
  rw [read, name.titleName?]
  rfl

theorem isTitle_titleLine (kind : ScenarioKind) (name : Name) :
    SuiteAudit.Feature.isTitle (titleLine kind.text name) = true := by
  rw [SuiteAudit.Feature.isTitle, scenarioTitle?_titleLine]
  rfl

theorem featureTitle?_titleLine (name : Name) :
    Line.featureTitle? (titleLine "Feature" name) = some name.text := name.titleName?

namespace Step

theorem trim_line (s : Step) : trim s.line = s.line := by
  have start : trimStart s.line = s.line := by
    unfold line
    cases s.keyword <;> rfl
  have solid : s.keyword.text.getLast?.any isBlank = false := by cases s.keyword <;> rfl
  have text := trimEnd_of_trimmed s.trimmed
  rw [trim, start, line, trimEnd_append solid, trimEnd_cons, text]
  simp [s.nonempty]

theorem splitStep?_line (s : Step) : Line.splitStep? s.line = some (s.keyword, s.text) := by
  have start : StepKeyword.read? (trimStart s.line) = some (s.keyword, ' ' :: s.text) := by
    unfold line
    cases s.keyword <;> rfl
  have blank : isBlank ' ' = true := rfl
  have oneLine := hasLineFeed_eq_false.mpr s.oneLine
  simp [Line.splitStep?, Line.step?, start, trim_cons_of_blank blank, s.trimmed, blank, oneLine]

/-- A step line is none of the lines that may stand between steps or end them. -/
theorem line_kind (s : Step) :
    SuiteAudit.Feature.isTitle s.line = false ∧ Line.isTags s.line = false ∧
      Line.isExamples s.line = false ∧ Line.isFence s.line = false ∧
      Line.startsWithTag s.line = false ∧ Line.isRow s.line = false ∧ s.line.isEmpty = false := by
  unfold line
  cases s.keyword <;> exact ⟨rfl, rfl, rfl, rfl, rfl, rfl, rfl⟩

end Step

namespace Row

theorem trim_text (r : Row) : trim r.text = r.text :=
  List.rdropWhile_concat_neg isBlank ('|' :: r.inner) '|' (by decide)

theorem isRow_text (r : Row) : Line.isRow r.text = true := by
  have oneLine := hasLineFeed_eq_false.mpr r.oneLine
  have start : trimStart r.text = '|' :: (r.inner ++ ['|']) := rfl
  have stop : trimEnd (r.inner ++ ['|']) = r.inner ++ ['|'] :=
    List.rdropWhile_concat_neg isBlank r.inner '|' (by decide)
  have inner : hasLineFeed r.inner.reverse = false := by simpa [hasLineFeed] using oneLine
  simp [Line.isRow, start, stop, inner]

theorem text_kind (r : Row) :
    SuiteAudit.Feature.isTitle r.text = false ∧ Line.isTags r.text = false := ⟨rfl, rfl⟩

end Row

/-! ## Tags -/

namespace Tag

theorem solid_text (t : Tag) : t.text ≠ [] ∧ ∀ c ∈ t.text, isBlank c = false := by
  refine ⟨by simp [text], fun c member => ?_⟩
  rcases List.mem_cons.mp member with rfl | later
  · rfl
  · exact t.solid c later

theorem solid_texts {tags : List Tag} :
    ∀ w ∈ tags.map text, w ≠ [] ∧ ∀ c ∈ w, isBlank c = false := by
  intro w member
  obtain ⟨t, -, rfl⟩ := List.mem_map.mp member
  exact t.solid_text

theorem joined_cons (t u : Tag) (tags : List Tag) :
    joined (t :: u :: tags) = t.text ++ ' ' :: joined (u :: tags) := by
  simp [joined, join]

theorem joined_start (t : Tag) (tags : List Tag) :
    ∃ c rest, joined (t :: tags) = '@' :: c :: rest ∧ isBlank c = false := by
  obtain ⟨label, nonempty, solid⟩ := t
  cases label with
  | nil => exact absurd rfl nonempty
  | cons c label =>
      have first := solid c List.mem_cons_self
      cases tags with
      | nil => exact ⟨c, label, rfl, first⟩
      | cons u tags => exact ⟨c, label ++ ' ' :: joined (u :: tags), joined_cons _ u tags, first⟩

theorem beforeComment_joined (tags : List Tag) :
    SuiteAudit.Feature.beforeComment (joined tags) = joined tags := by
  induction tags with
  | nil => rfl
  | cons t tags ih =>
      have first := SuiteAudit.Feature.beforeComment_append t.solid_text.2
      cases tags with
      | nil => simpa [SuiteAudit.Feature.beforeComment, joined, join] using first []
      | cons u tags =>
          -- The blank after a tag starts no comment, since the mark of a tag follows it.
          obtain ⟨c, rest, start, -⟩ := joined_start u tags
          rw [start] at ih
          rw [joined_cons, first, start, SuiteAudit.Feature.beforeComment, ih]
          simp

theorem tags_joined (tags : List Tag) : Line.tags (joined tags) = tags.map text := by
  rw [Line.tags, joined, words_join solid_texts, List.filterMap_map]
  induction tags with
  | nil => rfl
  | cons t tags ih =>
      obtain ⟨label, nonempty, solid⟩ := t
      cases label with
      | nil => exact absurd rfl nonempty
      | cons c label => simpa [text] using ih

theorem trim_joined (tags : List Tag) : trim (joined tags) = joined tags := by
  cases tags with
  | nil => rfl
  | cons t tags =>
      have start : trimStart (joined (t :: tags)) = joined (t :: tags) := by
        obtain ⟨c, rest, start, -⟩ := joined_start t tags
        rw [start]
        rfl
      rw [trim, start, joined, trimEnd_join solid_texts]

end Tag

/-- A tag line is no title, ends a name and gives its tags. -/
theorem tagLine_kind {tags : List Tag} {line : Text} (member : line ∈ tagLine tags) :
    SuiteAudit.Feature.isTitle line = false ∧ Line.isTags line = true ∧
      Line.featureTitle? line = none ∧ SuiteAudit.Feature.endsName (trim line) = true ∧
      SuiteAudit.Feature.tagsOfLine line = tags.map Tag.text := by
  cases tags with
  | nil => cases member
  | cons t tags =>
      obtain rfl : line = Tag.joined (t :: tags) := by simpa [tagLine] using member
      obtain ⟨c, rest, start, solid⟩ := Tag.joined_start t tags
      have starts : Line.startsWithTag (Tag.joined (t :: tags)) = true := by
        have trimmed : trimStart ('@' :: c :: rest) = '@' :: c :: rest := rfl
        simp [Line.startsWithTag, Line.afterTag?, start, trimmed, solid]
      have isTags : Line.isTags (Tag.joined (t :: tags)) = true := by
        rw [Line.isTags, starts, Bool.true_or]
      have comment : Line.isComment (Tag.joined (t :: tags)) = false := by
        rw [start]
        rfl
      refine ⟨?_, isTags, ?_, ?_, ?_⟩
      · rw [start]
        rfl
      · rw [start]
        rfl
      · simp [SuiteAudit.Feature.endsName, Tag.trim_joined, isTags]
      · simp [SuiteAudit.Feature.tagsOfLine, Tag.trim_joined, comment, starts,
          Tag.beforeComment_joined, Tag.tags_joined]

theorem tagsOf_tagLine (n : Nat) (tags : List Tag) :
    SuiteAudit.Feature.tagsOf (NumberedLine.countFrom n (tagLine tags)) = tags.map Tag.text := by
  cases tags with
  | nil => rfl
  | cons t tags =>
      have line : tagLine (t :: tags) = [Tag.joined (t :: tags)] := rfl
      obtain ⟨-, -, -, -, read⟩ := tagLine_kind (line ▸ List.mem_singleton_self _)
      rw [SuiteAudit.Feature.tagsOf, line]
      simpa [NumberedLine.countFrom] using read

/-! ## Blocks -/

theorem Block.mem_body (b : Block) {line : Text} (member : line ∈ b.body) :
    (∃ s : Step, line = s.line) ∨ line = examplesTitle ∨ ∃ r : Row, line = r.text := by
  rcases List.mem_append.mp member with inSteps | inExamples
  · obtain ⟨s, -, rfl⟩ := List.mem_map.mp inSteps
    exact .inl ⟨s, rfl⟩
  · rw [exampleLines] at inExamples
    cases rows : b.rows? with
    | none => simp [rows] at inExamples
    | some rs =>
        rw [rows] at inExamples
        rcases List.mem_cons.mp inExamples with rfl | inRows
        · exact .inr (.inl rfl)
        · obtain ⟨r, -, rfl⟩ := List.mem_map.mp inRows
          exact .inr (.inr ⟨r, rfl⟩)

theorem Block.body_kind (b : Block) {line : Text} (member : line ∈ b.body) :
    SuiteAudit.Feature.isTitle line = false ∧ Line.isTags line = false := by
  rcases b.mem_body member with ⟨s, rfl⟩ | rfl | ⟨r, rfl⟩
  · obtain ⟨title, tags, -⟩ := s.line_kind
    exact ⟨title, tags⟩
  · decide
  · exact r.text_kind

theorem Block.body_head (b : Block) :
    ∀ line ∈ b.body.head?, SuiteAudit.Feature.endsName (trim line) = true := by
  intro line first
  rw [body] at first
  cases steps : b.steps with
  | cons s steps =>
      obtain rfl : s.line = line := by simpa [steps] using first
      simp [SuiteAudit.Feature.endsName, s.trim_line, s.splitStep?_line]
  | nil =>
      rw [exampleLines, steps] at first
      cases rows : b.rows? with
      | none => simp [rows] at first
      | some rs =>
          obtain rfl : examplesTitle = line := by simpa [rows] using first
          decide

theorem Block.lines_head (b : Block) :
    ∀ line ∈ b.lines.head?, SuiteAudit.Feature.endsName (trim line) = true := by
  intro line first
  rw [lines] at first
  cases tags : tagLine b.tags with
  | cons tagged rest =>
      obtain rfl : tagged = line := by simpa [tags] using first
      obtain ⟨-, -, -, ends, -⟩ := tagLine_kind (tags ▸ List.mem_cons_self)
      exact ends
  | nil =>
      obtain rfl : titleLine b.kind.text b.name = line := by simpa [tags] using first
      simp [SuiteAudit.Feature.endsName, Line.scenarioTitle?_trim, scenarioTitle?_titleLine]

/-! ## Lines that are written out -/

theorem isLine_titleLine {keyword : Text} (oneLine : '\n' ∉ keyword) (name : Name) :
    IsLine (titleLine keyword name) := by
  refine ⟨by simp [titleLine, oneLine, name.oneLine], ?_⟩
  rw [titleLine]
  cases text : name.text with
  | nil => simp
  | cons c t =>
      have last := (isLine_of_trimmed name.oneLine (trimEnd_of_trimmed name.trimmed)).2
      rw [text] at last
      simpa using last

theorem isLine_of_mem_tagLine {tags : List Tag} {line : Text} (member : line ∈ tagLine tags) :
    IsLine line ∧ line ≠ [] := by
  cases tags with
  | nil => cases member
  | cons t tags =>
      obtain rfl : line = Tag.joined (t :: tags) := by simpa [tagLine] using member
      have oneLine : '\n' ∉ Tag.joined (t :: tags) := by
        intro feed
        rcases mem_join feed with between | ⟨w, inTags, inWord⟩
        · simp at between
        · cases (Tag.solid_texts w inTags).2 _ inWord
      have trimmed := trimEnd_of_trimmed (Tag.trim_joined (t :: tags))
      obtain ⟨c, rest, start, -⟩ := Tag.joined_start t tags
      exact ⟨isLine_of_trimmed oneLine trimmed, by simp [start]⟩

theorem Step.isLine_line (s : Step) : IsLine s.line := by
  have keyword : '\n' ∉ s.keyword.text := by cases s.keyword <;> decide
  exact isLine_of_trimmed (by simp [line, keyword, s.oneLine]) (trimEnd_of_trimmed s.trim_line)

theorem Row.isLine_text (r : Row) : IsLine r.text :=
  isLine_of_trimmed (by simp [text, r.oneLine]) (trimEnd_of_trimmed r.trim_text)

theorem Block.isLine_of_mem_body (b : Block) {line : Text} (member : line ∈ b.body) :
    IsLine line ∧ line ≠ [] := by
  rcases b.mem_body member with ⟨s, rfl⟩ | rfl | ⟨r, rfl⟩
  · exact ⟨s.isLine_line, by simp [Step.line]⟩
  · exact ⟨⟨by decide, by decide⟩, by decide⟩
  · exact ⟨r.isLine_text, by simp [Row.text]⟩

theorem Block.isLine_of_mem_lines (b : Block) {line : Text} (member : line ∈ b.lines) :
    IsLine line ∧ line ≠ [] := by
  have keyword : '\n' ∉ b.kind.text := by cases b.kind <;> decide
  rcases List.mem_append.mp member with inTags | below
  · exact isLine_of_mem_tagLine inTags
  · rcases List.mem_cons.mp below with rfl | inBody
    · exact ⟨isLine_titleLine keyword b.name, by simp [titleLine]⟩
    · exact b.isLine_of_mem_body inBody

theorem Feature.isLine_of_mem_lines (d : Feature) {line : Text} (member : line ∈ d.lines) :
    IsLine line ∧ line ≠ [] := by
  rcases List.mem_append.mp member with inTags | below
  · exact isLine_of_mem_tagLine inTags
  · rcases List.mem_cons.mp below with rfl | inBlocks
    · exact ⟨isLine_titleLine (by decide) d.name, by simp [titleLine]⟩
    · obtain ⟨b, -, inBlock⟩ := List.mem_flatMap.mp inBlocks
      exact b.isLine_of_mem_lines inBlock

end Draft

end SuiteAudit
