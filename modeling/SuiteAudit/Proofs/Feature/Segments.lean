import Mathlib.Data.List.DropRight
import SuiteAudit.Proofs.Feature.Append

/-!
# What the segments of a feature are

The lines of a feature body are cut into segments of one title each. From the first segment on every line is in
one of them, and a segment starts with the heading of its title: the tag lines, blank lines and comments right
above it, from the first tag line on. What is pending while lines are read is the heading of the title that may
come next, whatever was read before (`segmentsFrom_some_below`).
-/

namespace SuiteAudit

open Text

namespace Feature

theorem settles_of_isTitle {line : Text} (titled : isTitle line = true) : settles line = true := by
  obtain ⟨_, titled⟩ := Option.isSome_iff_exists.mp titled
  obtain ⟨⟨kind, rest⟩, found, -⟩ := Option.bind_eq_some_iff.mp titled
  obtain ⟨_, -, found⟩ := List.exists_of_findSome?_eq_some found
  obtain ⟨_, found, same⟩ := Option.map_eq_some_iff.mp found
  cases same
  have start : trimStart line = kind.text ++ [':'] ++ rest := after?_eq_some.mp found
  have filled : allBlank line = false := allBlank_of_trimStart (by simp [start])
  simp only [settles, filled, Line.isComment, Line.afterComment?, Line.isTags, Line.startsWithTag,
    Line.afterTag?, Line.isCommentedTags, Line.afterCommentTag?, start]
  cases kind <;> rfl

/-! ## Headings -/

/-- Of the lines above a title, those that belong to it: the run of tag lines, blank lines and comments at
the end, without what stands before the first tag line of the run. -/
def heading (above : List NumberedLine) : List NumberedLine :=
  (above.rtakeWhile fun l => !settles l.text).dropWhile fun l => !Line.isTags l.text

theorem heading_suffix (above : List NumberedLine) : heading above <:+ above :=
  (List.dropWhile_suffix _).trans (List.rtakeWhile_suffix _ _)

theorem heading_untitled {above : List NumberedLine} {l : NumberedLine} (member : l ∈ heading above) :
    isTitle l.text = false := by
  have waits := List.mem_rtakeWhile_imp ((List.dropWhile_suffix _).subset member)
  rw [← Bool.not_eq_true]
  intro titled
  simp [settles_of_isTitle titled] at waits

/-- A further line belongs to the heading if it has tags, or if it is blank or a comment and there is a
heading already; after any other line there is none. -/
theorem heading_concat (above : List NumberedLine) (l : NumberedLine) :
    heading (above ++ [l]) = if Line.isTags l.text ||
        (!(heading above).isEmpty && (allBlank l.text || Line.isComment l.text)) then
      heading above ++ [l] else [] := by
  cases settled : settles l.text with
  | true =>
      obtain ⟨⟨filled, said⟩, untagged⟩ : (allBlank l.text = false ∧ Line.isComment l.text = false) ∧
          Line.isTags l.text = false := by simpa [settles] using settled
      rw [heading, List.rtakeWhile_concat_neg _ _ _ (by simp [settled])]
      simp [filled, said, untagged]
  | false =>
      have run : (above ++ [l]).rtakeWhile (fun l => !settles l.text) =
          above.rtakeWhile (fun l => !settles l.text) ++ [l] :=
        List.rtakeWhile_concat_pos _ _ _ (by simp [settled])
      -- The run goes on, and a tag line before this one is all that matters of it.
      rw [heading, run, List.dropWhile_append, ← heading]
      cases tagged : Line.isTags l.text with
      | true => cases heading above <;> simp [tagged]
      | false =>
          have quiet : (allBlank l.text || Line.isComment l.text) = true := by
            rwa [settles, tagged, Bool.or_false, Bool.not_eq_false'] at settled
          cases heading above <;> simp [tagged, quiet]

theorem heading_concat_title (above : List NumberedLine) {title : NumberedLine}
    (titled : isTitle title.text = true) : heading (above ++ [title]) = [] := by
  rw [heading, List.rtakeWhile_concat_neg _ _ _ (by simp [settles_of_isTitle titled])]
  rfl

/-! ## Segments -/

/-- The segment is that of a title further down than `above`, with nothing between them but the heading of
the title. -/
def SegmentBelow (above segment : List NumberedLine) : Prop :=
  ∃ top title body, top = above ++ heading top ∧ segment = heading top ++ title :: body ∧
    isTitle title.text = true ∧ ∀ l ∈ body, isTitle l.text = false

theorem segmentBelow_title {above top : List NumberedLine} (whole : top = above ++ heading top)
    {title : NumberedLine} (titled : isTitle title.text = true) :
    SegmentBelow above (title :: (heading top).reverse).reverse ∧
      top ++ [title] = above ++ (title :: (heading top).reverse).reverse ++ heading (top ++ [title]) := by
  refine ⟨⟨top, title, [], whole, by simp, titled, List.forall_mem_nil _⟩, ?_⟩
  rw [heading_concat_title top titled]
  nth_rewrite 1 [whole]
  simp

theorem SegmentBelow.append {above segment : List NumberedLine} (below : SegmentBelow above segment)
    {more : List NumberedLine} (untitled : ∀ l ∈ more, isTitle l.text = false) :
    SegmentBelow above (segment ++ more) := by
  obtain ⟨top, title, body, whole, rfl, titled, rest⟩ := below
  exact ⟨top, title, body ++ more, whole, by simp, titled, List.forall_mem_append.mpr ⟨rest, untitled⟩⟩

theorem SegmentBelow.exists_title {above segment : List NumberedLine} (below : SegmentBelow above segment) :
    ∃ top title body, top = above ++ heading top ∧ segment = heading top ++ title :: body ∧
      segment.filter (fun l => isTitle l.text) = [title] := by
  obtain ⟨top, title, body, whole, rfl, titled, untitled⟩ := below
  refine ⟨top, title, body, whole, rfl, ?_⟩
  have lead : (heading top).filter (fun l => isTitle l.text) = [] :=
    List.filter_eq_nil_iff.mpr fun l member => by simp [heading_untitled member]
  have rest : body.filter (fun l => isTitle l.text) = [] :=
    List.filter_eq_nil_iff.mpr fun l member => by simp [untitled l member]
  simp [lead, titled, rest]

/-- While a segment is read, `above` holds all lines so far: those before the segment, the segment, and the
heading of the next title, which is pending. -/
theorem segmentsFrom_some_below (lines : List NumberedLine) {start segment above : List NumberedLine}
    (whole : above = start ++ segment.reverse ++ heading above) (opened : SegmentBelow start segment.reverse)
    {before after : List (List NumberedLine)} {s : List NumberedLine}
    (cut : segmentsFrom (some segment) (heading above).reverse lines = before ++ s :: after) :
    SegmentBelow (start ++ before.flatten) s := by
  induction lines generalizing start segment above before with
  | nil =>
      rw [segmentsFrom, Option.map_some, Option.toList_some, List.reverse_append, List.reverse_reverse] at cut
      obtain ⟨rfl, rest⟩ | ⟨_, rfl, rest⟩ := List.cons_eq_append_iff.mp cut
      · obtain ⟨rfl, -⟩ := List.cons.inj rest
        simpa using opened.append fun l => heading_untitled
      · simp at rest
  | cons l lines ih =>
      rw [segmentsFrom, List.isEmpty_reverse] at cut
      split at cut
      case isTrue titled =>
        -- The title closes the segment and takes what is pending.
        have next : [] = (heading (above ++ [l])).reverse := by
          rw [heading_concat_title above titled, List.reverse_nil]
        rw [Option.map_some, Option.toList_some, List.singleton_append, next] at cut
        obtain ⟨rfl, rest⟩ | ⟨before, rfl, rest⟩ := List.cons_eq_append_iff.mp cut
        · obtain ⟨rfl, -⟩ := List.cons.inj rest
          simpa using opened
        · obtain ⟨later, lines⟩ := segmentBelow_title whole titled
          simpa using ih lines later rest
      case isFalse untitled =>
        have next := heading_concat above l
        split at cut
        case isTrue keep =>
          rw [if_pos keep] at next
          have lines : above ++ [l] = start ++ segment.reverse ++ heading (above ++ [l]) := by
            rw [next, ← List.append_assoc, ← whole]
          exact ih lines opened (by simpa [next] using cut)
        case isFalse pass =>
          -- The line goes to the segment, and what was pending goes there before it.
          rw [if_neg pass] at next
          have longer : (l :: ((heading above).reverse ++ segment)).reverse =
              segment.reverse ++ (heading above ++ [l]) := by simp
          have lines : above ++ [l] = start ++ (l :: ((heading above).reverse ++ segment)).reverse ++
              heading (above ++ [l]) := by
            rw [next, longer, List.append_nil, ← List.append_assoc, ← List.append_assoc, ← whole]
          have more : ∀ l' ∈ heading above ++ [l], isTitle l'.text = false := by
            refine List.forall_mem_append.mpr ⟨fun l' => heading_untitled, ?_⟩
            simpa using untitled
          refine ih lines ?_ (by simpa [next] using cut)
          rw [longer]
          exact opened.append more

theorem segmentsFrom_none_below (lines : List NumberedLine) {above : List NumberedLine}
    (untitled : ∀ l ∈ above, isTitle l.text = false) :
    ∃ skipped, above ++ lines = skipped ++ (segmentsFrom none (heading above).reverse lines).flatten ∧
      (∀ l ∈ skipped, isTitle l.text = false) ∧
      ∀ before s after, segmentsFrom none (heading above).reverse lines = before ++ s :: after →
        SegmentBelow (skipped ++ before.flatten) s := by
  induction lines generalizing above with
  | nil =>
      refine ⟨above, by simp [segmentsFrom], untitled, fun before s after cut => ?_⟩
      simp [segmentsFrom] at cut
  | cons l lines ih =>
      rw [segmentsFrom, List.isEmpty_reverse]
      split
      case isTrue titled =>
        obtain ⟨skipped, whole⟩ := heading_suffix above
        obtain ⟨first, read⟩ := segmentBelow_title whole.symm titled
        have next : [] = (heading (above ++ [l])).reverse := by
          rw [heading_concat_title above titled, List.reverse_nil]
        refine ⟨skipped, ?_, fun l' member => ?_, fun before s after cut => ?_⟩
        · nth_rewrite 1 [← whole]
          simp [segmentsFrom_some_flatten]
        · exact untitled l' (whole ▸ List.mem_append_left _ member)
        · rw [next] at cut
          exact segmentsFrom_some_below lines read first cut
      case isFalse here =>
        have more : ∀ l' ∈ above ++ [l], isTitle l'.text = false := by
          refine List.forall_mem_append.mpr ⟨untitled, ?_⟩
          simpa using here
        have next : (if Line.isTags l.text ||
              (!(heading above).isEmpty && (allBlank l.text || Line.isComment l.text)) then
            segmentsFrom none (l :: (heading above).reverse) lines else segmentsFrom none [] lines) =
            segmentsFrom none (heading (above ++ [l])).reverse lines := by
          rw [heading_concat]
          split <;> simp
        rw [Option.map_none, next, List.append_cons]
        exact ih more

/-- Lines are cut into segments from some line on, and none of those before it is a title. A segment has one
title, with the heading of that title above it and what follows up to the heading of the next one. -/
theorem segments_partition (lines : List NumberedLine) :
    ∃ skipped, lines = skipped ++ (segments lines).flatten ∧
      (∀ l ∈ skipped, isTitle l.text = false) ∧
      ((∀ l ∈ lines, isTitle l.text = false) → segments lines = []) ∧
      ∀ before segment after, segments lines = before ++ segment :: after → ∃ above title body,
        lines = above ++ title :: (body ++ after.flatten) ∧
        above = skipped ++ (before.flatten ++ heading above) ∧
        segment = heading above ++ title :: body ∧
        segment.filter (fun l => isTitle l.text) = [title] := by
  obtain ⟨skipped, whole, untitled, below⟩ := segmentsFrom_none_below lines (List.forall_mem_nil _)
  change lines = skipped ++ (segments lines).flatten at whole
  refine ⟨skipped, whole, untitled, fun none => ?_, fun before segment after cut => ?_⟩
  · cases cut : segments lines with
    | nil => rfl
    | cons segment after =>
        obtain ⟨top, title, body, -, rfl, one⟩ := (below [] segment after cut).exists_title
        have member : title ∈ (heading top ++ title :: body).filter fun l => isTitle l.text := by simp [one]
        obtain ⟨inside, titled⟩ := List.mem_filter.mp member
        have there : title ∈ lines := by
          rw [whole, cut, List.flatten_cons]
          exact List.mem_append_right _ (List.mem_append_left _ inside)
        simp [none title there] at titled
  · obtain ⟨above, title, body, top, rfl, one⟩ := (below before segment after cut).exists_title
    refine ⟨above, title, body, ?_, by rw [← List.append_assoc, ← top], rfl, one⟩
    rw [whole, cut]
    nth_rewrite 2 [top]
    simp

/-- A comment, a scenario whose heading has a blank line and whose last line is a comment, and a scenario whose
heading has comments, one of them with a tag. -/
def taggedLines : List NumberedLine :=
  NumberedLine.countFrom 1 ["# note", "@a", "", "Scenario: One", "Given x", "# done", "@b", "# @c", "# next",
    "Scenario: Two"]

theorem segments_partition_tagged :
    segments taggedLines = [(taggedLines.drop 1).take 5] ++ taggedLines.drop 6 :: [] ∧
      ∃ above title body, taggedLines = above ++ title :: body ∧
        taggedLines.drop 6 = heading above ++ title :: body ∧
        (taggedLines.drop 6).filter (fun l => isTitle l.text) = [title] := by
  have cut : segments taggedLines = [(taggedLines.drop 1).take 5] ++ taggedLines.drop 6 :: [] := by
    decide +kernel
  obtain ⟨skipped, -, -, -, all⟩ := segments_partition taggedLines
  obtain ⟨above, title, body, whole, -, segment, one⟩ := all _ _ _ cut
  exact ⟨cut, above, title, body, by simpa using whole, segment, one⟩

end Feature

end SuiteAudit
