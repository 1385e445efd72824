import SuiteAudit.Proofs.Feature.StepLines
import SuiteAudit.Proofs.List
import SuiteAudit.Rule.Check

/-!
# Tags on all scenarios

A scenario keeps the tags of its feature behind its own ones, and the check for tags that all scenarios share cuts
them off again by their number. For a feature that was read from a file this gives back the tags above the title of
each scenario (`map_ownTags_ofText`), so only those are compared, wherever else a tag is written.
-/

namespace SuiteAudit

/-! ## Own tags -/

namespace Feature

/-- The segments of the scenarios in a file, without those of backgrounds. -/
def scenarioSegments (file : SourcePath) (t : Text) : List (List NumberedLine) :=
  (segments (readHeader file (NumberedLine.ofText t)).2).filter fun segment =>
    (readScenario? file segment).any fun s => s.kind ≠ .background

/-- The tags above the title of a segment. -/
def tagsAbove (segment : List NumberedLine) : List Text := tagsOf (segment.takeWhile fun l => !isTitle l.text)

theorem readScenario?_tags {file : SourcePath} {segment : List NumberedLine} {s : Scenario}
    (read : readScenario? file segment = some s) : s.tags = tagsAbove segment := by
  simp only [readScenario?] at read
  split at read
  · cases read
  · obtain ⟨⟨kind, start⟩, -, read⟩ := Option.bind_eq_some_iff.mp read
    have value := (Option.some.inj read).symm
    split at value
    · rw [value]
      rfl
    · rw [value]
      rfl

theorem forall₂_readScenario? (file : SourcePath) (p : Scenario → Bool) (segments : List (List NumberedLine)) :
    List.Forall₂ (fun segment s => readScenario? file segment = some s)
      (segments.filter fun segment => (readScenario? file segment).any p)
      ((segments.filterMap (readScenario? file)).filter p) := by
  induction segments with
  | nil => exact .nil
  | cons segment segments ih =>
      cases read : readScenario? file segment with
      | none => simpa [read] using ih
      | some s =>
          rw [List.filterMap_cons_some read]
          cases kept : p s with
          | false => simpa [read, kept] using ih
          | true => simpa [read, kept] using ih

/-- The scenarios of a file are read from their segments one by one. Behind the tags of its own a scenario has those
of the feature. -/
theorem forall₂_scenarioSegments (file : SourcePath) (t : Text) :
    List.Forall₂ (fun segment s => ∃ r, readScenario? file segment = some r ∧
        s = { r with tags := tagsAbove segment ++ (ofText file t).tags })
      (scenarioSegments file t) (ofText file t).scenarios := by
  have none : (readHeader file (NumberedLine.ofText t)).1.scenarios = [] := by
    have blocks := readHeader_blocks file (NumberedLine.ofText t)
    exact (List.append_eq_nil_iff.mp blocks).2
  rw [ofText_eq, tags_foldl_addBlock, scenarios_foldl_addBlock, none, List.nil_append,
    List.forall₂_map_right_iff]
  refine (forall₂_readScenario? file _ _).imp fun segment s read => ⟨s, read, ?_⟩
  rw [readScenario?_tags read]

end Feature

namespace Check

theorem ownTags_append (s : Scenario) (own inherited : List Text) :
    ownTags { s with tags := own ++ inherited } inherited.length = own := by
  simp [ownTags]

theorem map_ownTags_ofText (file : SourcePath) (t : Text) :
    ((Feature.ofText file t).scenarios.map fun s => ownTags s (Feature.ofText file t).tags.length) =
      (Feature.scenarioSegments file t).map Feature.tagsAbove := by
  rw [eq_comm, ← List.forall₂_eq_eq_eq, List.forall₂_map_left_iff, List.forall₂_map_right_iff]
  refine (Feature.forall₂_scenarioSegments file t).imp ?_
  rintro segment s ⟨r, -, rfl⟩
  exact (ownTags_append r _ _).symm

/-! ## Shared tags -/

/-- The tags are those that all scenarios have, apart from comments, each once and in the order of the first
scenario. -/
structure Shared (own : List (List Text)) (tags : List Text) : Prop where
  mem_iff : ∀ tag, tag ∈ tags ↔ tag.head? ≠ some '#' ∧ ∀ ts ∈ own, tag ∈ ts
  order : ∀ first ∈ own.head?, tags.Pairwise fun a b => first.idxOf a < first.idxOf b

theorem shared_filter (first : List Text) (others : List (List Text)) :
    Shared (first :: others)
      (first.filter fun t => !isCommentedTag t && others.all fun ts => ts.contains t).eraseDups := by
  constructor
  case mem_iff =>
    intro tag
    simp only [List.mem_eraseDups, List.mem_filter, isCommentedTag, Bool.and_eq_true, Bool.not_eq_true',
      decide_eq_false_iff_not, List.all_eq_true, List.contains_iff_mem, List.forall_mem_cons]
    exact and_left_comm
  case order =>
    rintro _ ⟨⟩
    rw [eraseDups_filter]
    exact (eraseDups_pairwise_idxOf first).sublist List.filter_sublist

theorem sharedTags_shared {f : Feature} (several : 2 ≤ f.scenarios.length) :
    Shared (f.scenarios.map fun s => ownTags s f.tags.length) (sharedTags f) := by
  obtain ⟨first, second, rest, scenarios⟩ : ∃ first second rest, f.scenarios = first :: second :: rest := by
    match found : f.scenarios with
    | [] => simp [found] at several
    | [_] => simp [found] at several
    | first :: second :: rest => exact ⟨first, second, rest, rfl⟩
  rw [sharedTags, scenarios, List.map_cons]
  simpa [List.all_map, Function.comp_def] using
    shared_filter (ownTags first f.tags.length) ((second :: rest).map fun s => ownTags s f.tags.length)

theorem sharedTags_of_length {f : Feature} (few : f.scenarios.length < 2) : sharedTags f = [] := by
  unfold sharedTags
  split
  case h_1 found =>
    rw [found, List.length_cons, List.length_cons] at few
    omega
  case h_2 => rfl

theorem filter_feature (c : Criteria) (f : Feature) :
    (feature c f).filter (fun v => v.rule = .sameTagOnAllScenarios) =
      (sharedTags f).map fun tag => ⟨.sameTagOnAllScenarios, some tag⟩ := by
  have other {b : Bool} {rule : RuleId} (differs : rule ≠ .sameTagOnAllScenarios) :
      (violationIf b rule).filter (fun v => v.rule = .sameTagOnAllScenarios) = [] := by
    cases b <;> simp [violationIf, differs]
  simp [feature, featureSharing, name, tags, violationEach, other, List.filter_map, Function.comp_def]

/-- The tags that the check of a feature file reports as shared are those that stand above the titles of all
scenarios, each in its own segment, if there are at least two. The tags of the feature play no part. -/
theorem feature_sharedTags (c : Criteria) (file : SourcePath) (t : Text) :
    List.Forall₂ (fun segment s => ∃ r, Feature.readScenario? file segment = some r ∧
        s = { r with tags := Feature.tagsAbove segment ++ (Feature.ofText file t).tags })
      (Feature.scenarioSegments file t) (Feature.ofText file t).scenarios ∧
    ∃ shared : List Text, (feature c (Feature.ofText file t)).filter (fun v => v.rule = .sameTagOnAllScenarios) =
        shared.map (fun tag => ⟨.sameTagOnAllScenarios, some tag⟩) ∧
      ((Feature.ofText file t).scenarios.length < 2 → shared = []) ∧
      (2 ≤ (Feature.ofText file t).scenarios.length →
        Shared ((Feature.scenarioSegments file t).map Feature.tagsAbove) shared) := by
  refine ⟨Feature.forall₂_scenarioSegments file t, _, filter_feature c _, sharedTags_of_length,
    fun several => ?_⟩
  rw [← map_ownTags_ofText]
  exact sharedTags_shared several

/-- A tag of the feature and of all scenarios, once twice, one of the feature alone, and one that is commented out
above all scenarios. -/
def slowText : Text :=
  "@all @slow\nFeature: Tags\nBackground:\nGiven b\n@slow @ui @slow\n# @late\nScenario: A\nGiven a\n".toList ++
    "# @late\n@ui @slow # @all\nScenario: B\n@new\n# @late\n@slow @ui\nScenario Outline: C".toList

theorem feature_sharedTags_slow :
    2 ≤ (Feature.ofText ⟨"tags.feature"⟩ slowText).scenarios.length ∧
    ∃ shared : List Text, (feature ⟨Rule.standard, []⟩ (Feature.ofText ⟨"tags.feature"⟩ slowText)).filter
        (fun v => v.rule = .sameTagOnAllScenarios) =
        shared.map (fun tag => ⟨.sameTagOnAllScenarios, some tag⟩) ∧
      shared.Pairwise (fun a b => ["@slow".toList, "@ui", "@slow", "# @late"].idxOf a <
        ["@slow".toList, "@ui", "@slow", "# @late"].idxOf b) ∧
      ∀ tag, tag ∈ shared ↔ tag = "@slow" ∨ tag = "@ui" := by
  have several : 2 ≤ (Feature.ofText ⟨"tags.feature"⟩ slowText).scenarios.length := by decide +kernel
  have own : (Feature.scenarioSegments ⟨"tags.feature"⟩ slowText).map Feature.tagsAbove =
      ([["@slow", "@ui", "@slow", "# @late"], ["# @late", "@ui", "@slow"], ["@new", "# @late", "@slow", "@ui"]] :
        List (List Text)) := by
    decide +kernel
  obtain ⟨-, shared, found, -, all⟩ := feature_sharedTags ⟨Rule.standard, []⟩ ⟨"tags.feature"⟩ slowText
  obtain ⟨mem_iff, order⟩ := all several
  rw [own] at mem_iff order
  refine ⟨several, shared, found, order _ rfl, fun tag => ?_⟩
  rw [mem_iff, List.forall_mem_cons, List.forall_mem_cons, List.forall_mem_singleton]
  refine ⟨fun ⟨plain, _, second, _⟩ => ?_, ?_⟩
  · simp only [List.mem_cons, List.not_mem_nil, or_false] at second
    rcases second with rfl | rfl | rfl
    · exact absurd rfl plain
    · exact .inr rfl
    · exact .inl rfl
  · rintro (rfl | rfl) <;> decide

end Check

end SuiteAudit
