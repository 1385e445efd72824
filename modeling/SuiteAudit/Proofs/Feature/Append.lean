import SuiteAudit.Proofs.Feature.Content

/-!
# Appending a scenario

A scenario that is written below a feature is read on its own. What is above its title is settled there,
even a description that goes on, a doc string that is open or a table of examples, as long as no tag line,
comment or blank line waits for the next title (`segments_append`).
-/

namespace SuiteAudit

open Text

theorem NumberedLine.content_countFrom_add (m n : Nat) (lines : List Text) :
    content id (countFrom (m + n) lines) = content (· + n) (countFrom m lines) := by
  induction lines generalizing m with
  | nil => rfl
  | cons line lines ih =>
      have rest := ih (m + 1)
      rw [Nat.add_right_comm] at rest
      rw [countFrom, countFrom]
      by_cases blank : trim line = []
      · rw [content_cons_of_blank blank, content_cons_of_blank blank, rest]
      · rw [content_cons_of_filled blank, content_cons_of_filled blank, rest]
        rfl

namespace Feature

/-- Further up or down in a file, the same lines say the same. -/
theorem readScenario?_countFrom_add (file : SourcePath) (m n : Nat) (lines : List Text) :
    readScenario? file (NumberedLine.countFrom (m + n) lines) =
      (readScenario? file (NumberedLine.countFrom m lines)).map (Scenario.relocate (· + n)) := by
  rw [← readScenario?_content_id, NumberedLine.content_countFrom_add, readScenario?_content]

/-! ## Segments -/

/-- A line after which no line waits for the next title. -/
def settles (line : Text) : Bool := !(allBlank line || Line.isComment line || Line.isTags line)

theorem segmentsFrom_append {title : NumberedLine} (titled : isTitle title.text = true)
    {lines : List NumberedLine} (settled : ∀ l ∈ lines.getLast?, settles l.text = true)
    (current : Option (List NumberedLine)) {pending : List NumberedLine}
    (start : lines = [] → pending = []) (rest : List NumberedLine) :
    segmentsFrom current pending (lines ++ title :: rest) =
      segmentsFrom current pending lines ++ segmentsFrom (some [title]) [] rest := by
  induction lines generalizing current pending with
  | nil =>
      rw [start rfl, List.nil_append]
      simp only [segmentsFrom, if_pos titled, List.nil_append]
  | cons l lines ih =>
      have below : ∀ l' ∈ lines.getLast?, settles l'.text = true := by
        intro l' last
        refine settled l' ?_
        rw [List.getLast?_cons, Option.mem_def.mp last]
        rfl
      rw [List.cons_append, segmentsFrom, segmentsFrom]
      split
      · rw [ih below _ fun _ => rfl, List.append_assoc]
      · split
        case isTrue keep =>
          -- The last line never waits, so a line that waits has others below it.
          refine ih below _ fun none => ?_
          subst none
          obtain ⟨⟨filled, said⟩, untagged⟩ : (allBlank l.text = false ∧ Line.isComment l.text = false) ∧
              Line.isTags l.text = false := by simpa [settles] using settled l rfl
          simp [filled, said, untagged] at keep
        case isFalse => exact ih below _ fun _ => rfl

theorem segmentsFrom_of_untitled {lines : List NumberedLine}
    (untitled : ∀ l ∈ lines, isTitle l.text = false) (segment pending : List NumberedLine) :
    segmentsFrom (some segment) pending lines = [segment.reverse ++ (pending.reverse ++ lines)] := by
  induction lines generalizing segment pending with
  | nil => simp [segmentsFrom]
  | cons l lines ih =>
      obtain ⟨first, later⟩ := List.forall_mem_cons.mp untitled
      rw [segmentsFrom, if_neg (by simp [first])]
      split
      · rw [ih later]
        simp
      · rw [Option.map_some, ih later]
        simp

theorem segments_append {title : NumberedLine} (titled : isTitle title.text = true)
    {lines rest : List NumberedLine} (settled : ∀ l ∈ lines.getLast?, settles l.text = true)
    (untitled : ∀ l ∈ rest, isTitle l.text = false) :
    segments (lines ++ title :: rest) = segments lines ++ [title :: rest] := by
  rw [segments, segmentsFrom_append titled settled none (fun _ => rfl), segmentsFrom_of_untitled untitled]
  rfl

/-! ## Files -/

theorem exists_readScenario? (file : SourcePath) {above : List NumberedLine} {title : NumberedLine}
    {kind : ScenarioKind} {name : Text} (untitled : ∀ l ∈ above, isTitle l.text = false)
    (titled : Line.scenarioTitle? title.text = some (kind, name)) (rest : List NumberedLine) :
    ∃ s, readScenario? file (above ++ title :: rest) = some s ∧ s.kind = kind ∧
      s.card.location = ⟨file, title.number⟩ ∧ s.tags = tagsOf above := by
  refine ⟨_, readScenario?_title file untitled titled rest, ?_⟩
  split <;> exact ⟨rfl, rfl, rfl⟩

/-- The lines of a scenario: its title, and the lines below it. -/
structure ScenarioLines where
  title : Text
  rest : List Text
  kind : ScenarioKind
  name : Text
  titled : Line.scenarioTitle? title = some (kind, name)
  scenario : kind ≠ .background
  untitled : ∀ line ∈ rest, isTitle line = false

namespace ScenarioLines

def lines (b : ScenarioLines) : List Text := b.title :: b.rest

theorem isTitle_title (b : ScenarioLines) : isTitle b.title = true :=
  isTitle_of_scenarioTitle? b.titled

theorem exists_scenario (b : ScenarioLines) (file : SourcePath) :
    ∃ s, readScenario? file (NumberedLine.countFrom 1 b.lines) = some s ∧ s.kind = b.kind ∧ s.tags = [] := by
  have title : Line.scenarioTitle? (NumberedLine.mk 1 b.title).text = some (b.kind, b.name) := b.titled
  obtain ⟨s, read, kind, -, tags⟩ :=
    exists_readScenario? file (List.forall_mem_nil _) title (NumberedLine.countFrom 2 b.rest)
  exact ⟨s, read, kind, tags⟩

theorem segments_append_lines (b : ScenarioLines) (n : Nat) {lines : List NumberedLine}
    (settled : ∀ l ∈ lines.getLast?, settles l.text = true) :
    segments (lines ++ NumberedLine.countFrom n b.lines) =
      segments lines ++ [NumberedLine.countFrom n b.lines] :=
  segments_append b.isTitle_title settled fun _ member =>
    b.untitled _ (NumberedLine.mem_of_mem_countFrom member)

end ScenarioLines

theorem readHeader_settled (file : SourcePath) {t : Text}
    (settled : ∀ line ∈ (Text.lines t).getLast?, settles line = true) :
    ∀ l ∈ (readHeader file (NumberedLine.ofText t)).2.getLast?, settles l.text = true := by
  intro l last
  obtain ⟨above, whole⟩ := readHeader_suffix file (NumberedLine.ofText t)
  have texts : (NumberedLine.ofText t).map NumberedLine.text = Text.lines t :=
    NumberedLine.countFrom_texts 1 (Text.lines t)
  refine settled l.text ?_
  rw [← texts, ← whole, List.getLast?_map, List.getLast?_append, Option.mem_def.mp last]
  rfl

theorem ofText_append {file : SourcePath} (b : ScenarioLines) {s : Scenario}
    (read : readScenario? file (NumberedLine.countFrom 1 b.lines) = some s) {t t' : Text}
    (appended : Text.lines t' = Text.lines t ++ b.lines)
    (headed : ∃ line ∈ Text.lines t, (Line.featureTitle? line).isSome = true)
    (settled : ∀ line ∈ (Text.lines t).getLast?, settles line = true) :
    ofText file t' = addBlock (ofText file t) (s.relocate (· + (Text.lines t).length)) := by
  have header : readHeader file (NumberedLine.ofText t') =
      ((readHeader file (NumberedLine.ofText t)).1, (readHeader file (NumberedLine.ofText t)).2 ++
        NumberedLine.countFrom (1 + (Text.lines t).length) b.lines) := by
    rw [NumberedLine.ofText, appended, NumberedLine.countFrom_append]
    exact readHeader_append file (NumberedLine.exists_mem_countFrom 1 headed)
      (endsName_of_isTitle b.isTitle_title) _
  have last : readScenario? file (NumberedLine.countFrom (1 + (Text.lines t).length) b.lines) =
      some (s.relocate (· + (Text.lines t).length)) := by
    rw [readScenario?_countFrom_add, read, Option.map_some]
  simp only [ofText_eq, header, b.segments_append_lines _ (readHeader_settled file settled),
    List.filterMap_append, List.filterMap_cons, last, List.filterMap_nil, List.foldl_append,
    List.foldl_cons, List.foldl_nil]

/-- A scenario appended to a feature becomes its last scenario. It says what it says alone, on later
lines, and everything else stays. -/
theorem ofText_append_scenario (file : SourcePath) (b : ScenarioLines) :
    ∃ s, readScenario? file (NumberedLine.countFrom 1 b.lines) = some s ∧ s.kind = b.kind ∧
      ∀ t t' : Text, Text.lines t' = Text.lines t ++ b.lines →
        (∃ line ∈ Text.lines t, (Line.featureTitle? line).isSome = true) →
        (∀ line ∈ (Text.lines t).getLast?, settles line = true) →
        ofText file t' = { ofText file t with
          scenarios := (ofText file t).scenarios ++
            [{ s.relocate (· + (Text.lines t).length) with tags := (ofText file t).tags }] } := by
  obtain ⟨s, read, kind, untagged⟩ := b.exists_scenario file
  refine ⟨s, read, kind, fun t t' appended headed settled => ?_⟩
  have scenario : (s.relocate (· + (Text.lines t).length)).kind ≠ .background := kind ▸ b.scenario
  rw [ofText_append b read appended headed settled, addBlock, if_neg scenario]
  simp only [Scenario.relocate, untagged, List.nil_append]

/-- A feature that ends in a doc string left open. -/
def openDocString : Text := "@far\nFeature: Trip\nScenario: Out\nGiven a bag\n\"\"\"\nWhen I pack"

def outlineLines : ScenarioLines where
  title := "Scenario Outline: Return"
  rest := ["When I fly", "Examples:", "| to |"]
  kind := .outline
  name := "Return"
  titled := by decide +kernel
  scenario := by decide
  untitled := by decide +kernel

/-- The doc string takes no line of the outline below it. -/
theorem ofText_append_scenario_openDocString :
    Text.lines (openDocString ++ '\n' :: join ['\n'] outlineLines.lines) =
        Text.lines openDocString ++ outlineLines.lines ∧
      (∃ line ∈ Text.lines openDocString, (Line.featureTitle? line).isSome = true) ∧
      (∀ line ∈ (Text.lines openDocString).getLast?, settles line = true) ∧
      ∃ s, readScenario? ⟨"trip"⟩ (NumberedLine.countFrom 1 outlineLines.lines) = some s ∧
        s.kind = .outline ∧
        ofText ⟨"trip"⟩ (openDocString ++ '\n' :: join ['\n'] outlineLines.lines) =
          { ofText ⟨"trip"⟩ openDocString with
            scenarios := (ofText ⟨"trip"⟩ openDocString).scenarios ++
              [{ s.relocate (· + 6) with tags := ["@far"] }] } := by
  have appended : Text.lines (openDocString ++ '\n' :: join ['\n'] outlineLines.lines) =
      Text.lines openDocString ++ outlineLines.lines := by decide +kernel
  have headed : ∃ line ∈ Text.lines openDocString, (Line.featureTitle? line).isSome = true := by
    decide +kernel
  have settled : ∀ line ∈ (Text.lines openDocString).getLast?, settles line = true := by
    decide +kernel
  have length : (Text.lines openDocString).length = 6 := by decide +kernel
  have tags : (ofText ⟨"trip"⟩ openDocString).tags = ["@far"] := by decide +kernel
  obtain ⟨s, read, kind, all⟩ := ofText_append_scenario ⟨"trip"⟩ outlineLines
  have joined := all _ _ appended headed settled
  rw [length, tags] at joined
  exact ⟨appended, headed, settled, s, read, kind, joined⟩

end Feature

end SuiteAudit
