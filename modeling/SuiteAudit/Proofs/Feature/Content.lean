import SuiteAudit.Proofs.Feature.DocString

/-!
# The content of lines

A feature is read from the lines that are not blank, each without the white space around it. The content
of lines is what is left of them then, and every step of reading commutes with taking it, from segments
(`segments_content`) to scenarios (`readScenario?_content`) and the whole feature (`ofText_of_content`).
Lines may be counted anew at the same time, and a scenario moves with its lines.
-/

namespace SuiteAudit

open Text

/-! ## Lines without the white space around them -/

namespace Line

theorem featureTitle?_trim (line : Text) : featureTitle? (trim line) = featureTitle? line := by
  have solid : ("Feature:" : Text).getLast?.any isBlank = false := by decide
  rw [featureTitle?, featureTitle?, trimStart_trim, after?_trimEnd solid]
  cases after? "Feature:" (trimStart line) with
  | none => rfl
  | some rest => exact titleName?_trimEnd rest

theorem isExamples_trim (line : Text) : isExamples (trim line) = isExamples line := by
  have solid : ∀ head ∈ (["Examples:", "Scenarios:"] : List Text),
      (id head).getLast?.any isBlank = false := by decide
  have cut := findSome?_after?_trimEnd id solid (trimStart line)
  simp only [id_eq] at cut
  simp only [isExamples, afterExamples?, afterAny?, trimStart_trim, cut, Option.isSome_map]

theorem afterComment?_trim (line : Text) :
    afterComment? (trim line) = (afterComment? line).map trimEnd := by
  have solid : ("#" : Text).getLast?.any isBlank = false := by decide
  rw [afterComment?, afterComment?, trimStart_trim, after?_trimEnd solid]

theorem isComment_trim (line : Text) : isComment (trim line) = isComment line := by
  rw [isComment, isComment, afterComment?_trim, Option.isSome_map]

theorem startsWithTag_trim (line : Text) : startsWithTag (trim line) = startsWithTag line := by
  rw [startsWithTag, startsWithTag, afterTag?, afterTag?, trimStart_trim]
  rcases trimStart_cases line with empty | ⟨c, rest, found, solid⟩
  · rw [empty]
    rfl
  · rw [found, trimEnd_cons_of_not_blank solid]
    by_cases tag : c = '@'
    · subst tag
      cases rest with
      | nil => rfl
      | cons d rest =>
          rw [trimEnd_cons]
          cases blank : isBlank d with
          | false => simp [blank]
          | true => cases empty : (trimEnd rest).isEmpty <;> simp [blank]
    · simp [tag]

theorem mem_takeWhile_trimEnd {c : Char} (solid : isBlank c = false) (test : Char → Bool) (t : Text) :
    c ∈ (trimEnd t).takeWhile test ↔ c ∈ t.takeWhile test := by
  induction t with
  | nil => rfl
  | cons d t ih =>
      rw [trimEnd_cons]
      cases passes : test d with
      | false => split <;> simp [passes]
      | true =>
          split
          case isTrue both =>
            obtain ⟨blank, empty⟩ := Bool.and_eq_true_iff.mp both
            rw [List.isEmpty_iff.mp empty] at ih
            have other : c ≠ d := by
              rintro rfl
              exact absurd blank (by simp [solid])
            simp [passes, other, ← ih]
          case isFalse => simp [passes, ih]

theorem isSome_afterLast? (c : Char) (t : Text) : (afterLast? c t).isSome = true ↔ c ∈ t := by
  simp [afterLast?]

theorem isSome_afterCommentTag?_trim (line : Text) :
    (afterCommentTag? (trim line)).isSome = (afterCommentTag? line).isSome := by
  simp only [afterCommentTag?, afterComment?_trim]
  cases afterComment? line with
  | none => rfl
  | some rest =>
      have marked := mem_takeWhile_trimEnd (by decide : isBlank '@' = false) (· != '\n') rest
      have found (u : Option Text) (f : Text → Text) : (u.bind fun t => some (f t)).isSome = u.isSome := by
        cases u <;> rfl
      rw [Bool.eq_iff_iff]
      simpa [found, isSome_afterLast?] using marked

end Line

theorem StepKeyword.read?_trimEnd (t : Text) :
    StepKeyword.read? (trimEnd t) = (StepKeyword.read? t).map fun s => (s.1, trimEnd s.2) :=
  findSome?_after?_trimEnd StepKeyword.text (by decide) t

namespace Line

theorem isCommentedStep_trim (line : Text) :
    isCommentedStep (trim line) = isCommentedStep line := by
  simp only [isCommentedStep, afterCommentedStep?, afterComment?_trim]
  cases afterComment? line with
  | none => rfl
  | some rest =>
      simp only [Option.map_some, Option.bind_eq_bind, Option.bind_some, trimStart_trimEnd,
        StepKeyword.read?_trimEnd]
      cases StepKeyword.read? (trimStart rest) with
      | none => rfl
      | some s =>
          obtain ⟨keyword, after⟩ := s
          cases after with
          | nil => rfl
          | cons c after =>
              simp only [Option.map_some, Option.bind_some, trimEnd_cons]
              cases blank : isBlank c with
              | false => simp [blank]
              | true => cases empty : (trimEnd after).isEmpty <;> simp [blank]

theorem isTags_trim (line : Text) : isTags (trim line) = isTags line := by
  rw [isTags, isTags, isCommentedTags, isCommentedTags, startsWithTag_trim,
    isSome_afterCommentTag?_trim, isCommentedStep_trim]

theorem allBlank_eq_isEmpty_trim (line : Text) : allBlank line = (trim line).isEmpty := by
  rw [Bool.eq_iff_iff, allBlank, List.all_eq_true, ← List.dropWhile_eq_nil_iff, List.isEmpty_iff, trim]
  change trimStart line = [] ↔ _
  rcases trimStart_cases line with empty | ⟨c, rest, found, solid⟩
  · simp [empty, trimEnd]
  · simp [found, trimEnd_cons_of_not_blank solid]

end Line

/-! ## Content -/

namespace NumberedLine

/-- The lines that are not blank, without the white space around them, line `n` counted as line
`place n`. -/
def content (place : Nat → Nat) (lines : List NumberedLine) : List NumberedLine :=
  lines.filterMap fun l => if (trim l.text).isEmpty then none else some ⟨place l.number, trim l.text⟩

variable {place : Nat → Nat}

@[simp] theorem content_nil : content place [] = [] := rfl

theorem content_cons_of_blank {l : NumberedLine} (blank : trim l.text = []) (lines : List NumberedLine) :
    content place (l :: lines) = content place lines := by
  simp [content, blank]

theorem content_cons_of_filled {l : NumberedLine} (filled : trim l.text ≠ [])
    (lines : List NumberedLine) :
    content place (l :: lines) = ⟨place l.number, trim l.text⟩ :: content place lines := by
  simp [content, filled]

@[simp] theorem content_append (lines more : List NumberedLine) :
    content place (lines ++ more) = content place lines ++ content place more :=
  List.filterMap_append

@[simp] theorem content_reverse (lines : List NumberedLine) :
    content place lines.reverse = (content place lines).reverse :=
  List.filterMap_reverse

theorem forall_mem_content {p : Text → Prop} (trimmed : ∀ t, p t → p (trim t))
    {lines : List NumberedLine} (all : ∀ l ∈ lines, p l.text) : ∀ l ∈ content place lines, p l.text := by
  intro l member
  obtain ⟨source, inside, kept⟩ := List.mem_filterMap.mp member
  split at kept
  · cases kept
  · cases kept
    exact trimmed source.text (all source inside)

/-- Lines are taken and dropped alike before and after their content, as long as blank lines are
passed. -/
theorem content_takeWhile (place : Nat → Nat) (test : Text → Bool) (trimmed : ∀ t, test (trim t) = test t)
    (empty : test [] = true) (lines : List NumberedLine) :
    (content place lines).takeWhile (fun l => test l.text) =
        content place (lines.takeWhile fun l => test l.text) ∧
      (content place lines).drop ((content place lines).takeWhile fun l => test l.text).length =
        content place (lines.drop (lines.takeWhile fun l => test l.text).length) := by
  induction lines with
  | nil => exact ⟨rfl, rfl⟩
  | cons l lines ih =>
      obtain ⟨taken, dropped⟩ := ih
      by_cases blank : trim l.text = []
      · have passes : test l.text = true := by rw [← trimmed, blank, empty]
        simp [passes, content_cons_of_blank blank, taken, ← dropped]
      · rw [content_cons_of_filled blank]
        cases passes : test l.text with
        | true => simp [passes, trimmed, content_cons_of_filled blank, taken, ← dropped]
        | false => simp [passes, trimmed, content_cons_of_filled blank]

end NumberedLine

/-- The scenario on lines counted anew. -/
def Scenario.relocate (place : Nat → Nat) (s : Scenario) : Scenario :=
  { s with
    card := { s.card with location := s.card.location.atLine (place s.card.location.line) }
    stepLines := s.stepLines.map place }

theorem Scenario.relocate_id (s : Scenario) : s.relocate id = s := by
  simp [relocate, Location.atLine]

namespace Feature

open NumberedLine (content content_cons_of_blank content_cons_of_filled content_takeWhile forall_mem_content)

variable {place : Nat → Nat}

theorem tagsOf_content (lines : List NumberedLine) :
    tagsOf (content place lines) = tagsOf lines := by
  induction lines with
  | nil => rfl
  | cons l lines ih =>
      by_cases blank : trim l.text = []
      · have none : tagsOfLine l.text = [] := by
          rw [tagsOfLine, blank]
          rfl
        rw [content_cons_of_blank blank, ih]
        simp [tagsOf, none]
      · have same : tagsOfLine (trim l.text) = tagsOfLine l.text := by
          rw [tagsOfLine, tagsOfLine, trim_trim]
        rw [content_cons_of_filled blank]
        simp only [tagsOf, List.flatMap_cons, same] at ih ⊢
        rw [ih]

theorem exampleLines_content (lines : List NumberedLine) :
    exampleLines (content place lines) = exampleLines lines := by
  induction lines with
  | nil => rfl
  | cons l lines ih =>
      by_cases blank : trim l.text = []
      · have none : (Line.isComment (trim l.text) || Line.isRow (trim l.text)) = false := by
          rw [blank]
          rfl
        rw [content_cons_of_blank blank, ih]
        simp [exampleLines, none]
      · rw [content_cons_of_filled blank]
        simp only [exampleLines, List.map_cons, trim_trim, List.filter_cons] at ih ⊢
        rw [ih]

theorem readDescription_content (lines : List NumberedLine) :
    readDescription (content place lines) =
      ((readDescription lines).1, content place (readDescription lines).2) := by
  induction lines with
  | nil => rfl
  | cons l lines ih =>
      by_cases blank : trim l.text = []
      · rw [content_cons_of_blank blank, ih]
        simp [readDescription, blank]
      · rw [content_cons_of_filled blank]
        cases ends : endsName (trim l.text) with
        | true => simp [readDescription, trim_trim, blank, ends, content_cons_of_filled blank]
        | false => simp [readDescription, trim_trim, blank, ends, ih]

theorem readName_content (title : Text) (lines : List NumberedLine) :
    readName title (content place lines) =
      ((readName title lines).1, content place (readName title lines).2) := by
  rw [readName, readDescription_content]
  rfl

theorem isTitle_trim (line : Text) : isTitle (trim line) = isTitle line := by
  rw [isTitle, isTitle, Line.scenarioTitle?_trim]

theorem isTitle_of_blank {line : Text} (blank : trim line = []) : isTitle line = false := by
  rw [← isTitle_trim, blank]
  rfl

theorem isTags_of_blank {line : Text} (blank : trim line = []) : Line.isTags line = false := by
  rw [← Line.isTags_trim, blank]
  rfl

/-- Whether a line that is no title waits for the next title. -/
theorem pending_trim (line : Text) (waiting : Bool) :
    (Line.isTags (trim line) || (waiting && (allBlank (trim line) || Line.isComment (trim line)))) =
      (Line.isTags line || (waiting && (allBlank line || Line.isComment line))) := by
  rw [Line.isTags_trim, Line.isComment_trim, Line.allBlank_eq_isEmpty_trim,
    Line.allBlank_eq_isEmpty_trim line, trim_trim]

theorem segmentsFrom_content (lines : List NumberedLine) (current : Option (List NumberedLine))
    (pending : List NumberedLine) (tagged : content place pending = [] → pending = []) :
    segmentsFrom (current.map (content place)) (content place pending) (content place lines) =
      (segmentsFrom current pending lines).map (content place) := by
  -- A line is pending only below a tag line, so blank lines change nothing but what segments hold.
  induction lines generalizing current pending with
  | nil =>
      cases current with
      | none => rfl
      | some segment => simp [segmentsFrom]
  | cons l lines ih =>
      have isEmpty : (content place pending).isEmpty = pending.isEmpty := by
        rw [Bool.eq_iff_iff, List.isEmpty_iff, List.isEmpty_iff]
        exact ⟨tagged, fun none => by rw [none]; rfl⟩
      by_cases blank : trim l.text = []
      · rw [content_cons_of_blank blank, segmentsFrom, if_neg (by simp [isTitle_of_blank blank])]
        split
        case isTrue keep =>
          rw [← ih current (l :: pending), content_cons_of_blank blank]
          intro none
          rw [content_cons_of_blank blank] at none
          simp [tagged none, isTags_of_blank blank] at keep
        case isFalse pass =>
          have none : pending = [] := by
            have empty : allBlank l.text = true := by rw [Line.allBlank_eq_isEmpty_trim, blank]; rfl
            simpa [isTags_of_blank blank, empty] using pass
          subst none
          rw [← ih _ [] fun _ => rfl, Option.map_map]
          congr 2
          funext segment
          exact (content_cons_of_blank blank segment).symm
      · rw [content_cons_of_filled blank, segmentsFrom, segmentsFrom, isTitle_trim, pending_trim, isEmpty]
        split
        · have next := ih (some (l :: pending)) [] fun _ => rfl
          rw [Option.map_some, content_cons_of_filled blank] at next
          rw [List.map_append, ← next]
          cases current <;> simp
        · split
          · have next := ih current (l :: pending) (by simp [content_cons_of_filled blank])
            rw [← next, content_cons_of_filled blank]
          · have next := ih (current.map fun segment => l :: (pending ++ segment)) [] fun _ => rfl
            rw [← next]
            simp [Function.comp_def, content_cons_of_filled blank]

theorem segments_content (lines : List NumberedLine) :
    segments (content place lines) = (segments lines).map (content place) :=
  segmentsFrom_content lines none [] fun _ => rfl

/-! ## Steps -/

/-- What is read of the steps, on lines counted anew. -/
def StepReading.relocate (place : Nat → Nat) (r : StepReading) : StepReading :=
  { r with steps := r.steps.map fun s => (s.1, place s.2) }

theorem StepReading.read_of_blank {l : NumberedLine} (blank : trim l.text = []) (r : StepReading) :
    r.read l = r := by
  have fence : Line.isFence [] = false := rfl
  simp [read, blank, fence]

theorem StepReading.read_relocate (r : StepReading) (l : NumberedLine) :
    (r.relocate place).read ⟨place l.number, trim l.text⟩ = (r.read l).relocate place := by
  simp only [read, trim_trim]
  split
  · rfl
  · have inside : (r.relocate place).inDocString = r.inDocString := rfl
    rw [inside]
    split
    · rfl
    · split
      · cases steps : r.steps with
        | nil => simp [relocate, steps]
        | cons s rest => simp [relocate, steps]
      · rfl

theorem StepReading.foldl_read_content (lines : List NumberedLine) (r : StepReading) :
    (content place lines).foldl read (r.relocate place) = (lines.foldl read r).relocate place := by
  induction lines generalizing r with
  | nil => rfl
  | cons l lines ih =>
      by_cases blank : trim l.text = []
      · rw [content_cons_of_blank blank, ih, List.foldl_cons, read_of_blank blank]
      · rw [content_cons_of_filled blank, List.foldl_cons, List.foldl_cons, read_relocate, ih]

/-! ## Scenarios and features -/

theorem withSteps_content (s : Scenario) (lines : List NumberedLine) :
    withSteps (s.relocate place) (content place lines) = (withSteps s lines).relocate place := by
  have read : (content place lines).foldl StepReading.read {} = _ :=
    StepReading.foldl_read_content lines {}
  simp [withSteps, read, StepReading.relocate, Scenario.relocate, Function.comp_def]

theorem readScenario?_of_untitled (file : SourcePath) {segment : List NumberedLine}
    (untitled : ∀ l ∈ segment, isTitle l.text = false) : readScenario? file segment = none := by
  have all : ∀ l ∈ segment, (!isTitle l.text) = true := fun l member => by rw [untitled l member]; rfl
  rw [readScenario?, List.takeWhile_eq_self_iff.mpr all, List.drop_length]

theorem readScenario?_content (file : SourcePath) (segment : List NumberedLine) :
    readScenario? file (content place segment) =
      (readScenario? file segment).map (Scenario.relocate place) := by
  have untitled_content {lines : List NumberedLine} (untitled : ∀ l ∈ lines, isTitle l.text = false) :
      ∀ l ∈ content place lines, isTitle l.text = false :=
    forall_mem_content (fun t => (isTitle_trim t).trans) untitled
  cases found : segment.find? fun l => isTitle l.text with
  | none =>
      have untitled : ∀ l ∈ segment, isTitle l.text = false := by
        simpa using List.find?_eq_none.mp found
      rw [readScenario?_of_untitled file untitled,
        readScenario?_of_untitled file (untitled_content untitled)]
      rfl
  | some title =>
      obtain ⟨titled, above, rest, rfl, earlier⟩ := List.find?_eq_some_iff_append.mp found
      have untitled : ∀ l ∈ above, isTitle l.text = false := by simpa using earlier
      have filled : trim title.text ≠ [] := fun blank => by simp [isTitle_of_blank blank] at titled
      obtain ⟨⟨kind, start⟩, read⟩ := Option.isSome_iff_exists.mp titled
      have read' : Line.scenarioTitle? (trim title.text) = some (kind, start) := by
        rw [Line.scenarioTitle?_trim, read]
      obtain ⟨steps, examples⟩ := content_takeWhile place (fun t => !Line.isExamples t)
        (fun t => by rw [Line.isExamples_trim]) rfl (readName start rest).2
      have moved (name : Text) (tags : List Text) (steps : List NumberedLine) :
          withSteps { card := { location := ⟨file, place title.number⟩ }, name, tags, kind }
              (content place steps) =
            (withSteps { card := { location := ⟨file, title.number⟩ }, name, tags, kind } steps).relocate
              place :=
        withSteps_content { card := { location := ⟨file, title.number⟩ }, name, tags, kind } steps
      rw [NumberedLine.content_append, content_cons_of_filled filled,
        readScenario?_title file untitled read,
        readScenario?_title file (untitled_content untitled) read']
      rw [steps] at examples
      simp only [readName_content, tagsOf_content, steps, examples, exampleLines_content, moved]
      cases kind.isOutline <;> rfl

theorem readScenario?_content_id (file : SourcePath) (segment : List NumberedLine) :
    readScenario? file (content id segment) = readScenario? file segment := by
  rw [readScenario?_content, funext Scenario.relocate_id, Option.map_id']

theorem readHeader_content (file : SourcePath) (lines : List NumberedLine) :
    readHeader file (content id lines) =
      ((readHeader file lines).1, content id (readHeader file lines).2) := by
  have untitled_content {lines : List NumberedLine}
      (untitled : ∀ l ∈ lines, Line.featureTitle? l.text = none) :
      ∀ l ∈ content id lines, Line.featureTitle? l.text = none :=
    forall_mem_content (fun t => (Line.featureTitle?_trim t).trans) untitled
  cases found : lines.find? fun l => (Line.featureTitle? l.text).isSome with
  | none =>
      have untitled : ∀ l ∈ lines, Line.featureTitle? l.text = none := by
        simpa using List.find?_eq_none.mp found
      rw [readHeader_of_untitled file untitled,
        readHeader_of_untitled file (untitled_content untitled)]
  | some title =>
      obtain ⟨titled, above, rest, rfl, earlier⟩ := List.find?_eq_some_iff_append.mp found
      have untitled : ∀ l ∈ above, Line.featureTitle? l.text = none := by simpa using earlier
      have filled : trim title.text ≠ [] := by
        intro blank
        rw [← Line.featureTitle?_trim, blank] at titled
        cases titled
      have titled' : (Line.featureTitle? (trim title.text)).isSome = true := by
        rw [Line.featureTitle?_trim]
        exact titled
      rw [NumberedLine.content_append, content_cons_of_filled filled, readHeader_title file untitled titled,
        readHeader_title file (untitled_content untitled) titled']
      simp only [Line.featureTitle?_trim, readName_content, tagsOf_content, id_eq]

/-- A feature is read from the content of its lines. -/
theorem ofText_of_content (file : SourcePath) {t t' : Text}
    (same : content id (NumberedLine.ofText t) = content id (NumberedLine.ofText t')) :
    ofText file t = ofText file t' := by
  have read (t : Text) : ofText file t =
      let header := readHeader file (content id (NumberedLine.ofText t))
      ((segments header.2).filterMap (readScenario? file)).foldl addBlock header.1 := by
    simp only [ofText_eq, readHeader_content, segments_content, List.filterMap_map, Function.comp_def,
      readScenario?_content_id]
  rw [read t, read t', same]

end Feature

end SuiteAudit
