import Mathlib.Algebra.Group.Nat.Even
import SuiteAudit.Proofs.Feature.RoundTrip

/-!
# Doc strings

Steps are read past a doc string as if it were not there. The titles of a feature and the examples of an
outline are looked for before that, in all lines, so a doc string is skipped as long as it quotes none of
them. Tag lines, comments, rows and steps may stand in it.
-/

namespace SuiteAudit

open Text

namespace Line

theorem isFence_trim (line : Text) : isFence (trim line) = isFence line := by
  have solid : ∀ head ∈ (["\"\"\"", "\x60\x60\x60"] : List Text),
      (id head).getLast?.any isBlank = false := by decide
  have cut := findSome?_after?_trimEnd id solid (trimStart line)
  simp only [id_eq] at cut
  simp only [isFence, afterFence?, afterAny?, trimStart_trim, cut, Option.isSome_map]

theorem trimStart_of_isFence {line : Text} (fence : isFence line = true) :
    ∃ rest, trimStart line = '"' :: rest ∨ trimStart line = '\x60' :: rest := by
  simp only [isFence, afterFence?, afterAny?, Option.isSome_map, List.findSome?_isSome_iff] at fence
  obtain ⟨head, member, found⟩ := fence
  obtain ⟨rest, found⟩ := Option.isSome_iff_exists.mp found
  have cut := after?_eq_some.mp found
  rcases List.mem_pair.mp member with rfl | rfl
  · exact ⟨_, .inl cut⟩
  · exact ⟨_, .inr cut⟩

theorem kind_of_isFence {line : Text} (fence : isFence line = true) :
    scenarioTitle? line = none ∧ isTags line = false ∧ isComment line = false ∧
      isExamples line = false ∧ allBlank line = false := by
  obtain ⟨rest, start⟩ := trimStart_of_isFence fence
  have filled : allBlank line = false :=
    allBlank_of_trimStart fun none => by simp [none] at start
  rcases start with start | start
  all_goals
    simp only [scenarioTitle?, isTags, startsWithTag, afterTag?, isCommentedTags, afterCommentTag?,
      isComment, afterComment?, isExamples, afterExamples?, start]
    exact ⟨rfl, rfl, rfl, rfl, filled⟩

end Line

namespace Feature

theorem isTitle_of_isFence {line : Text} (fence : Line.isFence line = true) : isTitle line = false := by
  rw [isTitle, (Line.kind_of_isFence fence).1]
  rfl

theorem endsName_of_isFence {line : Text} (fence : Line.isFence line = true) :
    endsName (trim line) = true := by
  rw [endsName, Line.isFence_trim, fence, Bool.or_true]

theorem endsName_of_isTitle {line : Text} (titled : isTitle line = true) :
    endsName (trim line) = true := by
  rw [isTitle] at titled
  simp only [endsName, Line.scenarioTitle?_trim, titled, Bool.true_or]

/-! ## Steps around a doc string -/

namespace StepReading

theorem read_of_isFence {l : NumberedLine} (fence : Line.isFence l.text = true) (r : StepReading) :
    r.read l = { r with inDocString := !r.inDocString } := by
  simp only [read, Line.isFence_trim, fence, if_true]

theorem read_of_inDocString {r : StepReading} (inside : r.inDocString = true) {l : NumberedLine}
    (plain : Line.isFence l.text = false) : r.read l = r := by
  simp [read, Line.isFence_trim, plain, inside]

theorem read_inDocString {l : NumberedLine} (plain : Line.isFence l.text = false) (r : StepReading) :
    (r.read l).inDocString = r.inDocString := by
  simp only [read, Line.isFence_trim, plain, Bool.false_eq_true, if_false]
  split
  · rfl
  · split
    · split <;> rfl
    · rfl

/-- Fences come in pairs where no doc string is left open. -/
theorem foldl_read_inDocString (lines : List NumberedLine) (r : StepReading) :
    (lines.foldl read r).inDocString = r.inDocString ↔
      Even (lines.countP fun l => Line.isFence l.text) := by
  induction lines generalizing r with
  | nil => simp
  | cons l lines ih =>
      rw [List.foldl_cons]
      cases fence : Line.isFence l.text with
      | true =>
          have toggled : (r.read l).inDocString = !r.inDocString := by rw [read_of_isFence fence]
          rw [List.countP_cons_of_pos (by exact fence), Nat.even_add_one, ← ih (r.read l), toggled]
          simp
      | false =>
          rw [List.countP_cons_of_neg (by simp [fence]), ← ih (r.read l), read_inDocString fence]

theorem foldl_read_inside {content : List NumberedLine}
    (plain : ∀ l ∈ content, Line.isFence l.text = false) {r : StepReading}
    (inside : r.inDocString = true) : content.foldl read r = r := by
  induction content with
  | nil => rfl
  | cons l content ih =>
      rw [List.foldl_cons, read_of_inDocString inside (plain l List.mem_cons_self)]
      exact ih fun l' member => plain l' (List.mem_cons_of_mem l member)

theorem foldl_read_docString {opening closing : NumberedLine} {content : List NumberedLine}
    (opens : Line.isFence opening.text = true) (closes : Line.isFence closing.text = true)
    (plain : ∀ l ∈ content, Line.isFence l.text = false) {r : StepReading}
    (outside : r.inDocString = false) (rest : List NumberedLine) :
    (opening :: (content ++ closing :: rest)).foldl read r = rest.foldl read r := by
  have opened : (r.read opening).inDocString = true := by
    rw [read_of_isFence opens, outside]
    rfl
  rw [List.foldl_cons, List.foldl_append, foldl_read_inside plain opened, List.foldl_cons,
    read_of_isFence closes, read_of_isFence opens, Bool.not_not]

end StepReading

theorem withSteps_docString {opening closing : NumberedLine} {before content : List NumberedLine}
    (closed : Even (before.countP fun l => Line.isFence l.text))
    (opens : Line.isFence opening.text = true) (closes : Line.isFence closing.text = true)
    (plain : ∀ l ∈ content, Line.isFence l.text = false) (s : Scenario) (rest : List NumberedLine) :
    withSteps s (before ++ opening :: (content ++ closing :: rest)) = withSteps s (before ++ rest) := by
  have outside : (before.foldl StepReading.read {}).inDocString = false :=
    (StepReading.foldl_read_inDocString before {}).mpr closed
  rw [withSteps, withSteps, List.foldl_append, List.foldl_append,
    StepReading.foldl_read_docString opens closes plain outside]

/-! ## Names before a doc string -/

/-- A description ends at the latest where a name does. -/
theorem readDescription_append {last : NumberedLine} (ends : endsName (trim last.text) = true)
    (lines rest : List NumberedLine) :
    readDescription (lines ++ last :: rest) =
      ((readDescription lines).1, (readDescription lines).2 ++ last :: rest) := by
  induction lines with
  | nil =>
      refine readDescription_of_endsName fun l first => ?_
      cases first
      exact ends
  | cons l lines ih =>
      simp only [List.cons_append, readDescription, ih]
      split
      · rfl
      · split <;> rfl

theorem readName_append (start : Text) {last : NumberedLine} (ends : endsName (trim last.text) = true)
    (lines rest : List NumberedLine) :
    readName start (lines ++ last :: rest) =
      ((readName start lines).1, (readName start lines).2 ++ last :: rest) := by
  simp only [readName, readDescription_append ends]

/-- What is taken into a name holds no fence. -/
theorem readName_unfenced (start : Text) (lines : List NumberedLine) :
    ∃ taken, lines = taken ++ (readName start lines).2 ∧ ∀ l ∈ taken, Line.isFence l.text = false := by
  change ∃ taken, lines = taken ++ (readDescription lines).2 ∧ _
  induction lines with
  | nil => exact ⟨[], rfl, by simp⟩
  | cons l lines ih =>
      obtain ⟨taken, whole, plain⟩ := ih
      have taking (fence : Line.isFence (trim l.text) = false) :
          ∀ l' ∈ l :: taken, Line.isFence l'.text = false :=
        List.forall_mem_cons.mpr ⟨(Line.isFence_trim l.text).symm.trans fence, plain⟩
      rw [readDescription]
      split
      case isTrue blank =>
        have fence : Line.isFence (trim l.text) = false := by
          rw [List.isEmpty_iff.mp blank]
          rfl
        exact ⟨l :: taken, congrArg (l :: ·) whole, taking fence⟩
      case isFalse =>
        split
        case isTrue => exact ⟨[], rfl, by simp⟩
        case isFalse goesOn =>
          have fence := (Bool.or_eq_false_iff.mp (Bool.eq_false_iff.mpr goesOn)).2
          exact ⟨l :: taken, congrArg (l :: ·) whole, taking fence⟩

/-! ## Segments around a doc string -/

theorem segmentsFrom_title {title : NumberedLine} (titled : isTitle title.text = true)
    (lines : List NumberedLine) (current : Option (List NumberedLine)) (pending : List NumberedLine)
    (untitled : ∀ l ∈ pending, isTitle l.text = false) :
    ∃ done above, (∀ l ∈ above, isTitle l.text = false) ∧
      ∀ rest, segmentsFrom current pending (lines ++ title :: rest) =
        done ++ segmentsFrom (some (title :: above)) [] rest := by
  -- What is pending at the title begins its segment, and no title is ever pending.
  induction lines generalizing current pending with
  | nil =>
      refine ⟨(current.map List.reverse).toList, pending, untitled, fun rest => ?_⟩
      rw [List.nil_append, segmentsFrom, if_pos titled]
  | cons l lines ih =>
      cases here : isTitle l.text with
      | true =>
          obtain ⟨done, above, untitled', read⟩ := ih (some (l :: pending)) [] (by simp)
          refine ⟨(current.map List.reverse).toList ++ done, above, untitled', fun rest => ?_⟩
          rw [List.cons_append, segmentsFrom, if_pos here, read, List.append_assoc]
      | false =>
          by_cases keep : (Line.isTags l.text ||
              (!pending.isEmpty && (Text.allBlank l.text || Line.isComment l.text))) = true
          · obtain ⟨done, above, untitled', read⟩ :=
              ih current (l :: pending) (List.forall_mem_cons.mpr ⟨here, untitled⟩)
            refine ⟨done, above, untitled', fun rest => ?_⟩
            rw [List.cons_append, segmentsFrom, if_neg (by simp [here]), if_pos keep, read]
          · obtain ⟨done, above, untitled', read⟩ :=
              ih (current.map fun segment => l :: (pending ++ segment)) [] (by simp)
            refine ⟨done, above, untitled', fun rest => ?_⟩
            rw [List.cons_append, segmentsFrom, if_neg (by simp [here]), if_neg keep, read]

theorem segmentsFrom_fence {lines : List NumberedLine}
    (untitled : ∀ l ∈ lines, isTitle l.text = false) {fence : NumberedLine}
    (isFence : Line.isFence fence.text = true) (segment pending rest : List NumberedLine) :
    segmentsFrom (some segment) pending (lines ++ fence :: rest) =
      segmentsFrom (some (fence :: (lines.reverse ++ (pending ++ segment)))) [] rest := by
  -- Tag lines may become pending on the way. The fence is no tag line, so it takes them back.
  induction lines generalizing segment pending with
  | nil =>
      obtain ⟨title, tags, comment, -, blank⟩ := Line.kind_of_isFence isFence
      simp [segmentsFrom, isTitle, title, tags, comment, blank]
  | cons l lines ih =>
      obtain ⟨first, later⟩ := List.forall_mem_cons.mp untitled
      rw [List.cons_append, segmentsFrom, if_neg (by simp [first])]
      split
      · rw [ih later]
        simp
      · rw [Option.map_some, ih later]
        simp

/-- How lines are cut does not depend on what the segment that is being read holds. -/
theorem segmentsFrom_some (lines pending : List NumberedLine) :
    ∃ own others, ∀ segment, segmentsFrom (some segment) pending lines =
      (segment.reverse ++ own) :: others := by
  induction lines generalizing pending with
  | nil => exact ⟨pending.reverse, [], fun segment => by simp [segmentsFrom]⟩
  | cons l lines ih =>
      cases here : isTitle l.text with
      | true =>
          refine ⟨[], segmentsFrom (some (l :: pending)) [] lines, fun segment => ?_⟩
          rw [segmentsFrom, if_pos here]
          simp
      | false =>
          by_cases keep : (Line.isTags l.text ||
              (!pending.isEmpty && (Text.allBlank l.text || Line.isComment l.text))) = true
          · obtain ⟨own, others, read⟩ := ih (l :: pending)
            refine ⟨own, others, fun segment => ?_⟩
            rw [segmentsFrom, if_neg (by simp [here]), if_pos keep, read]
          · obtain ⟨own, others, read⟩ := ih []
            refine ⟨pending.reverse ++ l :: own, others, fun segment => ?_⟩
            rw [segmentsFrom, if_neg (by simp [here]), if_neg keep, Option.map_some, read]
            simp

/-! ## Scenarios with a doc string -/

theorem takeWhile_drop_docString {left content : List NumberedLine} {opening closing : NumberedLine}
    (above : ∀ l ∈ left, Line.isExamples l.text = false)
    (opens : Line.isFence opening.text = true) (closes : Line.isFence closing.text = true)
    (plain : ∀ l ∈ content, Line.isExamples l.text = false) (own : List NumberedLine) :
    let body := left ++ opening :: (content ++ closing :: own)
    let unmarked : NumberedLine → Bool := fun l => !Line.isExamples l.text
    let steps := left ++ opening :: (content ++ closing :: own.takeWhile unmarked)
    body.takeWhile unmarked = steps ∧
      body.drop steps.length = own.drop (own.takeWhile unmarked).length := by
  intro body unmarked steps
  have all : ∀ l ∈ left ++ opening :: (content ++ [closing]), unmarked l = true := by
    obtain ⟨-, -, -, opened, -⟩ := Line.kind_of_isFence opens
    obtain ⟨-, -, -, ended, -⟩ := Line.kind_of_isFence closes
    simp only [List.mem_append, List.mem_cons, List.not_mem_nil, or_false]
    rintro l (member | rfl | member | rfl)
    · simp [unmarked, above l member]
    · simp [unmarked, opened]
    · simp [unmarked, plain l member]
    · simp [unmarked, ended]
  have whole : body = (left ++ opening :: (content ++ [closing])) ++ own := by simp [body]
  have taken : steps = (left ++ opening :: (content ++ [closing])) ++ own.takeWhile unmarked := by
    simp [steps]
  constructor
  · rw [whole, taken, List.takeWhile_append_of_pos all]
  · rw [whole, taken, List.length_append, List.drop_length_add_append]

theorem isTitle_of_scenarioTitle? {line : Text} {kind : ScenarioKind} {name : Text}
    (read : Line.scenarioTitle? line = some (kind, name)) : isTitle line = true := by
  rw [isTitle, read, Option.isSome_some]

theorem readScenario?_title (file : SourcePath) {above : List NumberedLine} {title : NumberedLine}
    {kind : ScenarioKind} {start : Text} (untitled : ∀ l ∈ above, isTitle l.text = false)
    (read : Line.scenarioTitle? title.text = some (kind, start)) (rest : List NumberedLine) :
    readScenario? file (above ++ title :: rest) =
      let body := (readName start rest).2
      let steps := body.takeWhile fun l => !Line.isExamples l.text
      let s : Scenario :=
        { card := { location := ⟨file, title.number⟩ }
          name := (readName start rest).1
          tags := tagsOf above
          kind }
      let s := withSteps s steps
      some (if kind.isOutline then { s with examples := exampleLines (body.drop steps.length) } else s) := by
  have upto : ∀ l ∈ above, (!isTitle l.text) = true := by
    intro l member
    rw [untitled l member]
    rfl
  rw [readScenario?, List.takeWhile_append_of_pos upto,
    List.takeWhile_cons_of_neg (by simp [isTitle_of_scenarioTitle? read]), List.append_nil, List.drop_left]
  simp only [read]
  rfl

/-- A scenario says the same without the content of a doc string. -/
theorem readScenario?_docString (file : SourcePath) {above before content : List NumberedLine}
    {title opening closing : NumberedLine} (untitled : ∀ l ∈ above, isTitle l.text = false)
    (titled : isTitle title.text = true) (steps : ∀ l ∈ before, Line.isExamples l.text = false)
    (closed : Even (before.countP fun l => Line.isFence l.text))
    (opens : Line.isFence opening.text = true) (closes : Line.isFence closing.text = true)
    (plain : ∀ l ∈ content, Line.isFence l.text = false ∧ Line.isExamples l.text = false)
    (own : List NumberedLine) :
    readScenario? file (above ++ title :: (before ++ opening :: (content ++ closing :: own))) =
      readScenario? file (above ++ title :: (before ++ opening :: closing :: own)) := by
  obtain ⟨⟨kind, start⟩, read⟩ := Option.isSome_iff_exists.mp titled
  obtain ⟨taken, whole, unfenced⟩ := readName_unfenced start before
  have named := readName_append start (endsName_of_isFence opens) before
  generalize readName start before = nameRead at whole named
  obtain ⟨name, left⟩ := nameRead
  subst whole
  have left_steps : ∀ l ∈ left, Line.isExamples l.text = false :=
    fun l member => steps l (List.mem_append_right taken member)
  have left_closed : Even (left.countP fun l => Line.isFence l.text) := by
    have none : (taken.countP fun l => Line.isFence l.text) = 0 := by
      rw [List.countP_eq_zero]
      intro l member
      simp [unfenced l member]
    rwa [List.countP_append, none, Nat.zero_add] at closed
  -- The steps are those before and after the doc string, whatever it holds.
  have reads (content : List NumberedLine)
      (plain : ∀ l ∈ content, Line.isFence l.text = false ∧ Line.isExamples l.text = false) :
      readScenario? file (above ++ title :: ((taken ++ left) ++ opening :: (content ++ closing :: own))) =
        let later := own.takeWhile fun l => !Line.isExamples l.text
        let s : Scenario :=
          { card := { location := ⟨file, title.number⟩ }, name, tags := tagsOf above, kind }
        let s := withSteps s (left ++ later)
        some (if kind.isOutline then { s with examples := exampleLines (own.drop later.length) } else s) := by
    obtain ⟨body, examples⟩ := takeWhile_drop_docString left_steps opens closes
      (fun l member => (plain l member).2) own
    have skipped := withSteps_docString left_closed opens closes fun l member => (plain l member).1
    rw [readScenario?_title file untitled read]
    simp only [named, body, examples, skipped]
  exact (reads content plain).trans (reads [] (by simp)).symm

/-! ## Features with a doc string -/

theorem segments_docString (lines : List NumberedLine) {title opening closing : NumberedLine}
    {before : List NumberedLine} (titled : isTitle title.text = true)
    (untitled : ∀ l ∈ before, isTitle l.text = false) (opens : Line.isFence opening.text = true)
    (closes : Line.isFence closing.text = true) (after : List NumberedLine) :
    ∃ done above own others, (∀ l ∈ above, isTitle l.text = false) ∧
      ∀ content : List NumberedLine, (∀ l ∈ content, isTitle l.text = false) →
        segments (lines ++ title :: (before ++ opening :: (content ++ closing :: after))) =
          done ++ (above ++ title :: (before ++ opening :: (content ++ closing :: own))) :: others := by
  obtain ⟨done, above, plain, cut⟩ := segmentsFrom_title titled lines none [] (by simp)
  obtain ⟨own, others, rest⟩ := segmentsFrom_some after []
  refine ⟨done, above.reverse, own, others, by simpa using plain, fun content quoted => ?_⟩
  have inside : ∀ l ∈ before ++ opening :: content, isTitle l.text = false := by
    simp only [List.mem_append, List.mem_cons]
    rintro l (member | rfl | member)
    · exact untitled l member
    · exact isTitle_of_isFence opens
    · exact quoted l member
  have joined : before ++ opening :: (content ++ closing :: after) =
      (before ++ opening :: content) ++ closing :: after := by simp
  rw [segments, cut, joined, segmentsFrom_fence inside closes, rest]
  simp

theorem readHeader_title (file : SourcePath) {above : List NumberedLine} {title : NumberedLine}
    (untitled : ∀ l ∈ above, Line.featureTitle? l.text = none)
    (titled : (Line.featureTitle? title.text).isSome = true) (rest : List NumberedLine) :
    readHeader file (above ++ title :: rest) =
      let read := readName ((Line.featureTitle? title.text).getD []) rest
      ({ card := { location := ⟨file, title.number⟩ }, name := read.1, tags := tagsOf above }, read.2) := by
  have upto : ∀ l ∈ above, (Line.featureTitle? l.text).isNone = true := by
    intro l member
    rw [untitled l member]
    rfl
  have stop : ¬(Line.featureTitle? title.text).isNone = true := by
    rw [Option.isNone_eq_false_iff.mpr titled]
    exact Bool.false_ne_true
  rw [readHeader, List.takeWhile_append_of_pos upto, List.takeWhile_cons_of_neg (by exact stop),
    List.append_nil, List.drop_left]

theorem readHeader_append (file : SourcePath) {lines : List NumberedLine}
    (headed : ∃ l ∈ lines, (Line.featureTitle? l.text).isSome = true) {last : NumberedLine}
    (ends : endsName (trim last.text) = true) (rest : List NumberedLine) :
    readHeader file (lines ++ last :: rest) =
      ((readHeader file lines).1, (readHeader file lines).2 ++ last :: rest) := by
  obtain ⟨title, found⟩ := Option.isSome_iff_exists.mp (List.find?_isSome.mpr headed)
  obtain ⟨titled, above, below, rfl, earlier⟩ := List.find?_eq_some_iff_append.mp found
  have untitled : ∀ l ∈ above, Line.featureTitle? l.text = none := by simpa using earlier
  rw [List.append_assoc, List.cons_append, readHeader_title file untitled titled,
    readHeader_title file untitled titled]
  simp only [readName_append _ ends]

theorem readHeader_of_untitled (file : SourcePath) {lines : List NumberedLine}
    (headless : ∀ l ∈ lines, Line.featureTitle? l.text = none) :
    readHeader file lines = ({ card := { location := ⟨file, 1⟩ } }, lines) := by
  have all : ∀ l ∈ lines, (Line.featureTitle? l.text).isNone = true := by
    intro l member
    rw [headless l member]
    rfl
  rw [readHeader, List.takeWhile_eq_self_iff.mpr all, List.drop_length]

/-- A doc string among the steps of a scenario, and all lines around it. The fences between the title of
the scenario and the doc string are those of other doc strings. -/
structure DocString where
  above : List Text
  title : Text
  before : List Text
  opening : Text
  closing : Text
  after : List Text
  titled : isTitle title = true
  inSteps : ∀ line ∈ before, isTitle line = false ∧ Line.isExamples line = false
  closed : Even (before.countP Line.isFence)
  opens : Line.isFence opening = true
  closes : Line.isFence closing = true

namespace DocString

def lines (d : DocString) (content : List Text) : List Text :=
  d.above ++ d.title :: (d.before ++ d.opening :: (content ++ d.closing :: d.after))

/-- Content that holds no title. That of a feature does no harm below the title of the feature. -/
structure Untitled (d : DocString) (content : List Text) : Prop where
  unfenced : ∀ line ∈ content, Line.isFence line = false
  untitled : ∀ line ∈ content, isTitle line = false ∧ Line.isExamples line = false
  headed : (∃ line ∈ d.above, (Line.featureTitle? line).isSome = true) ∨
    ∀ line ∈ d.lines content, Line.featureTitle? line = none

open NumberedLine (countFrom)

theorem countFrom_lines (d : DocString) (content : List Text) :
    let title := 1 + d.above.length
    let opening := title + 1 + d.before.length
    let closing := opening + 1 + content.length
    countFrom 1 (d.lines content) =
      countFrom 1 d.above ++ ⟨title, d.title⟩ :: (countFrom (title + 1) d.before ++
        ⟨opening, d.opening⟩ :: (countFrom (opening + 1) content ++
          ⟨closing, d.closing⟩ :: countFrom (closing + 1) d.after)) := by
  intro title opening closing
  rw [lines, NumberedLine.countFrom_append, countFrom, NumberedLine.countFrom_append, countFrom,
    NumberedLine.countFrom_append, countFrom]

theorem countP_countFrom (n : Nat) (lines : List Text) :
    ((countFrom n lines).countP fun l => Line.isFence l.text) = lines.countP Line.isFence := by
  conv_rhs => rw [← NumberedLine.countFrom_texts n lines, List.countP_map]
  rfl

theorem readHeader_lines (file : SourcePath) (d : DocString) :
    ∃ header body, ∀ content, d.Untitled content →
      let title := 1 + d.above.length
      let opening := title + 1 + d.before.length
      let closing := opening + 1 + content.length
      readHeader file (countFrom 1 (d.lines content)) =
        (header, body ++ ⟨title, d.title⟩ :: (countFrom (title + 1) d.before ++
          ⟨opening, d.opening⟩ :: (countFrom (opening + 1) content ++
            ⟨closing, d.closing⟩ :: countFrom (closing + 1) d.after))) := by
  by_cases headed : ∃ line ∈ d.above, (Line.featureTitle? line).isSome = true
  · refine ⟨(readHeader file (countFrom 1 d.above)).1, (readHeader file (countFrom 1 d.above)).2,
      fun content untitled => ?_⟩
    intro title opening closing
    rw [countFrom_lines]
    exact readHeader_append file (NumberedLine.exists_mem_countFrom 1 headed)
      (endsName_of_isTitle d.titled) _
  · refine ⟨{ card := { location := ⟨file, 1⟩ } }, countFrom 1 d.above, fun content untitled => ?_⟩
    intro title opening closing
    have headless := untitled.headed.resolve_left headed
    rw [readHeader_of_untitled file fun l member =>
      headless l.text (NumberedLine.mem_of_mem_countFrom member), countFrom_lines]

theorem exists_ofText (file : SourcePath) (d : DocString) (n : Nat) :
    ∃ f, ∀ (t : Text) (content : List Text), Text.lines t = d.lines content → content.length = n →
      d.Untitled content → ofText file t = f := by
  -- Only the numbers of the lines below the doc string depend on its content, through its length.
  let title : NumberedLine := ⟨1 + d.above.length, d.title⟩
  let opening : NumberedLine := ⟨title.number + 1 + d.before.length, d.opening⟩
  let closing : NumberedLine := ⟨opening.number + 1 + n, d.closing⟩
  let before := countFrom (title.number + 1) d.before
  have inSteps : ∀ l ∈ before, isTitle l.text = false ∧ Line.isExamples l.text = false :=
    fun l member => d.inSteps l.text (NumberedLine.mem_of_mem_countFrom member)
  have closed : Even (before.countP fun l => Line.isFence l.text) := by
    rw [countP_countFrom]
    exact d.closed
  have titled : isTitle title.text = true := d.titled
  have opens : Line.isFence opening.text = true := d.opens
  have closes : Line.isFence closing.text = true := d.closes
  obtain ⟨header, body, read⟩ := d.readHeader_lines file
  obtain ⟨done, above, own, others, plain, cut⟩ := segments_docString body titled
    (fun l member => (inSteps l member).1) opens closes (countFrom (closing.number + 1) d.after)
  refine ⟨((done ++ (above ++ title :: (before ++ opening :: closing :: own)) :: others).filterMap
    (readScenario? file)).foldl addBlock header, fun t content lines same untitled => ?_⟩
  let quoted := countFrom (opening.number + 1) content
  have untitled_quoted : ∀ l ∈ quoted, isTitle l.text = false := fun l member =>
    (untitled.untitled l.text (NumberedLine.mem_of_mem_countFrom member)).1
  have unread : ∀ l ∈ quoted, Line.isFence l.text = false ∧ Line.isExamples l.text = false := by
    intro l member
    have text := NumberedLine.mem_of_mem_countFrom member
    exact ⟨untitled.unfenced l.text text, (untitled.untitled l.text text).2⟩
  have scenario := readScenario?_docString file plain titled (fun l member => (inSteps l member).2)
    closed opens closes unread own
  have header_read := read content untitled
  rw [same] at header_read
  rw [ofText_eq, NumberedLine.ofText, lines, header_read, cut quoted untitled_quoted]
  simp only [List.filterMap_append, List.filterMap_cons, scenario]

end DocString

/-- The content of a doc string in the steps of a scenario may be replaced by as many other lines, if
neither holds a fence or a title: the feature stays the same. -/
theorem ofText_docString (file : SourcePath) (d : DocString) {t t' : Text} {content content' : List Text}
    (lines : Text.lines t = d.lines content) (lines' : Text.lines t' = d.lines content')
    (untitled : d.Untitled content) (untitled' : d.Untitled content')
    (same : content'.length = content.length) : ofText file t' = ofText file t := by
  obtain ⟨f, read⟩ := d.exists_ofText file content.length
  rw [read t content lines rfl untitled, read t' content' lines' same untitled']

def storedDocument : DocString where
  above := ["@docs", "Feature: Docs", "  Quoted text"]
  title := "  Scenario: Doc string"
  before := ["    Given a note:", "      \"\"\"", "      Then it is read", "      \"\"\"",
    "    And a document:"]
  opening := "      \"\"\""
  closing := "      \"\"\""
  after := ["    Then both are stored"]
  titled := by decide
  inSteps := by decide
  closed := by decide
  opens := by decide
  closes := by decide

def storedText (content : List Text) : Text := join ['\n'] (storedDocument.lines content)

theorem ofText_docString_stored :
    let content : List Text := ["      Then it is no step", "      | a | b |"]
    let content' : List Text := ["      Feature: Quoted", "      @tag"]
    storedDocument.Untitled content ∧ storedDocument.Untitled content' ∧
      ofText ⟨"docs.feature"⟩ (storedText content') = ofText ⟨"docs.feature"⟩ (storedText content) ∧
      (ofText ⟨"docs.feature"⟩ (storedText content)).scenarios.map Scenario.steps =
        ([["Given a note:", "And a document:", "Then both are stored"]] : List (List Text)) := by
  intro content content'
  have untitled : storedDocument.Untitled content := ⟨by decide, by decide, .inl (by decide)⟩
  have untitled' : storedDocument.Untitled content' := ⟨by decide, by decide, .inl (by decide)⟩
  have lines : Text.lines (storedText content) = storedDocument.lines content := by decide +kernel
  have lines' : Text.lines (storedText content') = storedDocument.lines content' := by decide +kernel
  have same : content'.length = content.length := by decide
  have equal := ofText_docString ⟨"docs.feature"⟩ storedDocument lines lines' untitled untitled' same
  exact ⟨untitled, untitled', equal, by decide +kernel⟩

/-- A title in a doc string ends the scenario or its steps, and what comes after it is lost. -/
theorem ofText_quotedTitle :
    let steps (quoted : Text) : List (List Text) :=
      (ofText ⟨"docs.feature"⟩ (storedText [quoted])).scenarios.map Scenario.steps
    (∀ quoted ∈ (["plain words", "Scenario: a quoted title", "Examples:"] : List Text),
      Line.isFence quoted = false ∧ Text.lines (storedText [quoted]) = storedDocument.lines [quoted]) ∧
      steps "plain words" =
        ([["Given a note:", "And a document:", "Then both are stored"]] : List (List Text)) ∧
      steps "Scenario: a quoted title" = ([["Given a note:", "And a document:"], []] : List (List Text)) ∧
      steps "Examples:" = ([["Given a note:", "And a document:"]] : List (List Text)) := by
  decide +kernel

end Feature

end SuiteAudit
