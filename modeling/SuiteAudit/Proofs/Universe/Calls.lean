import Mathlib.Algebra.GroupWithZero.Nat
import SuiteAudit.Proofs.Feature.Outline
import SuiteAudit.Proofs.Feature.StepLines
import SuiteAudit.Proofs.SortedMap
import SuiteAudit.Proofs.StepFile.CallLines
import SuiteAudit.Suite

/-!
# The calls of a suite

The universe of a suite is a map, and the calls that it is built from stand at different places if
the files have different paths (`callsOf_ofFiles_distinct`). So no call overwrites another one, and
the universe holds every call once (`Universe.build_perm`).
-/

namespace SuiteAudit

/-- The calls stand at different places. -/
def DistinctCalls (calls : List (StepLocation × Text)) : Prop :=
  calls.Pairwise fun a b => a.1.key ≠ b.1.key

namespace Universe

/-! ## The calls of a block -/

theorem stepsOf_location {s : Scenario} {e : StepLocation × Text} (member : e ∈ stepsOf s) :
    e.1.location.file = s.card.location.file ∧ e.1.location.line ∈ s.stepLines := by
  have live : ∀ {step : Text} {line : Nat}, (step, line) ∈ s.liveSteps → line ∈ s.stepLines :=
    fun found => s.liveSteps_lines.subset (List.mem_map_of_mem found)
  unfold stepsOf at member
  split at member
  · obtain ⟨r, -, -, step, line, found, place, -⟩ := Scenario.mem_expansion.mp member
    rw [place]
    exact ⟨rfl, live found⟩
  · obtain ⟨⟨step, line⟩, found, rfl⟩ := List.mem_map.mp member
    exact ⟨rfl, live found⟩

theorem stepsOf_distinct {s : Scenario} (distinct : s.stepLines.Nodup) :
    DistinctCalls (stepsOf s) := by
  unfold DistinctCalls stepsOf
  split
  · exact Scenario.expansion_distinct distinct
  · refine List.pairwise_map.mpr ((Scenario.liveSteps_distinct distinct).imp fun differ same => differ ?_)
    simpa [StepLocation.key, Location.atLine] using same

/-! ## The calls of a file -/

theorem featureCalls_file {file : SourcePath} {t : Text} {e : StepLocation × Text}
    (member : e ∈ (Feature.ofText file t).blocks.flatMap stepsOf) : e.1.location.file = file := by
  obtain ⟨s, block, called⟩ := List.mem_flatMap.mp member
  obtain ⟨title, kept, card, -⟩ := Feature.ofText_mem_blocks block
  rw [(stepsOf_location called).1, card]

theorem featureCalls_distinct (file : SourcePath) (t : Text) :
    DistinctCalls ((Feature.ofText file t).blocks.flatMap stepsOf) := by
  have lines : ((Feature.ofText file t).blocks.flatMap Scenario.ownLines).Nodup :=
    List.Pairwise.sublist (Feature.ofText_ownLines_sublist file t) (List.nodup_range' 1)
  obtain ⟨within, between⟩ := List.pairwise_flatMap.mp lines
  refine List.pairwise_flatMap.mpr ⟨fun s block => ?_, between.imp ?_⟩
  · exact stepsOf_distinct (List.Pairwise.of_cons (within s block))
  · intro s s' apart a called b called' same
    have line : a.1.location.line ∈ s.ownLines :=
      List.mem_cons_of_mem _ (stepsOf_location called).2
    have line' : b.1.location.line ∈ s'.ownLines :=
      List.mem_cons_of_mem _ (stepsOf_location called').2
    exact apart _ line _ line' (congrArg (fun key => key.2.1) same)

theorem definitionCalls_file {file : SourcePath} {t : Text} {e : StepLocation × Text}
    (member : e ∈ (StepDefinition.ofText file t).flatMap nestedOf) : e.1.location.file = file := by
  obtain ⟨d, definition, called⟩ := List.mem_flatMap.mp member
  obtain ⟨call, nested, rfl⟩ := List.mem_map.mp called
  exact StepDefinition.ofText_nested_file definition nested

theorem definitionCalls_distinct (file : SourcePath) (t : Text) :
    DistinctCalls ((StepDefinition.ofText file t).flatMap nestedOf) := by
  refine List.pairwise_flatMap.mpr ⟨fun d definition => List.pairwise_map.mpr ?_, ?_⟩
  · refine (StepDefinition.ofText_nested_pairwise definition).imp fun less same => ?_
    exact absurd (congrArg (fun key => key.2.1) same) (Nat.ne_of_lt less)
  · refine (StepDefinition.ofText_pairwise file t).imp ?_
    rintro d d' ⟨-, below⟩ a called b called' same
    obtain ⟨call, nested, rfl⟩ := List.mem_map.mp called
    obtain ⟨call', nested', rfl⟩ := List.mem_map.mp called'
    exact absurd (congrArg (fun key => key.2.1) same) (Nat.ne_of_lt (below call nested call' nested'))

/-! ## The calls of a suite -/

/-- No two of the files name the same path. -/
def DistinctPaths (files : List SourceFile) : Prop :=
  (files.map fun f => f.path.components).Nodup

instance (files : List SourceFile) : Decidable (DistinctPaths files) :=
  inferInstanceAs (Decidable (List.Nodup _))

theorem distinct_flatMap {α : Type} {path : α → SourcePath} {calls : α → List (StepLocation × Text)}
    {files : List α} (inFile : ∀ f ∈ files, ∀ e ∈ calls f, e.1.location.file = path f)
    (within : ∀ f ∈ files, DistinctCalls (calls f))
    (between : files.Pairwise fun f g => (path f).components ≠ (path g).components) :
    DistinctCalls (files.flatMap calls) := by
  refine List.pairwise_flatMap.mpr ⟨within, (List.Pairwise.and_mem.mp between).imp ?_⟩
  rintro f g ⟨left, right, apart⟩ a called b called' same
  have paths := congrArg Prod.fst same
  simp only [StepLocation.key, inFile f left a called, inFile g right b called'] at paths
  exact apart paths

theorem callsOf_ofFiles (featureFiles stepFiles : List SourceFile) :
    callsOf (Suite.ofFiles featureFiles stepFiles).features
        (Suite.ofFiles featureFiles stepFiles).definitions =
      featureFiles.flatMap (fun f => (Feature.ofText f.path f.text).blocks.flatMap stepsOf) ++
        stepFiles.flatMap fun f => (StepDefinition.ofText f.path f.text).flatMap nestedOf := by
  simp only [callsOf, Suite.ofFiles, List.flatMap_map, List.flatMap_assoc]

theorem callsOf_ofFiles_distinct {featureFiles stepFiles : List SourceFile}
    (paths : DistinctPaths (featureFiles ++ stepFiles)) :
    DistinctCalls (callsOf (Suite.ofFiles featureFiles stepFiles).features
      (Suite.ofFiles featureFiles stepFiles).definitions) := by
  obtain ⟨left, right, apart⟩ := List.pairwise_append.mp (List.pairwise_map.mp paths)
  rw [callsOf_ofFiles]
  refine List.pairwise_append.mpr ⟨?_, ?_, ?_⟩
  · exact distinct_flatMap (fun f _ e member => featureCalls_file member)
      (fun f _ => featureCalls_distinct f.path f.text) left
  · exact distinct_flatMap (fun f _ e member => definitionCalls_file member)
      (fun f _ => definitionCalls_distinct f.path f.text) right
  · intro a called b called' same
    obtain ⟨f, file, member⟩ := List.mem_flatMap.mp called
    obtain ⟨g, file', member'⟩ := List.mem_flatMap.mp called'
    have paths := congrArg Prod.fst same
    simp only [StepLocation.key, featureCalls_file member, definitionCalls_file member'] at paths
    exact apart f file g file' paths

/-! ## The map -/

theorem build_perm {features : List Feature} {definitions : List StepDefinition}
    (distinct : DistinctCalls (callsOf features definitions)) :
    List.Perm (build features definitions).calls (callsOf features definitions) := by
  have keys : (callsOf features definitions).Pairwise fun a b => a.1.order b.1 ≠ .eq :=
    distinct.imp fun differ same => differ (StepLocation.order_eq_iff.mp same)
  rw [← List.append_nil (callsOf features definitions)] at keys ⊢
  exact Sorted.insertAll_perm keys

/-! ## What the universe holds -/

/-- What the files of a suite call, and where: the live steps of backgrounds and of scenarios without
examples, the steps of outlines once for each live row, and the nested calls of definitions. -/
inductive Calls (featureFiles stepFiles : List SourceFile) : StepLocation → Text → Prop
  | live {file : SourceFile} {s : Scenario} {t : Text} {line : Nat} (source : file ∈ featureFiles)
      (block : s ∈ (Feature.ofText file.path file.text).blocks) (plain : s.isOutline = false)
      (step : (t, line) ∈ s.liveSteps) : Calls featureFiles stepFiles ⟨⟨file.path, line⟩, none⟩ t
  | expanded {file : SourceFile} {s : Scenario} {l : StepLocation} {t : Text}
      (source : file ∈ featureFiles) (block : s ∈ (Feature.ofText file.path file.text).blocks)
      (outline : s.isOutline = true) (step : (l, t) ∈ s.expansion) : Calls featureFiles stepFiles l t
  | nested {file : SourceFile} {d : StepDefinition} {l : Location} {t : Text}
      (source : file ∈ stepFiles) (definition : d ∈ StepDefinition.ofText file.path file.text)
      (call : (l, t) ∈ d.nested) : Calls featureFiles stepFiles ⟨l, none⟩ t

theorem mem_callsOf_ofFiles {featureFiles stepFiles : List SourceFile} {l : StepLocation} {t : Text} :
    (l, t) ∈ callsOf (Suite.ofFiles featureFiles stepFiles).features
        (Suite.ofFiles featureFiles stepFiles).definitions ↔ Calls featureFiles stepFiles l t := by
  rw [callsOf_ofFiles, List.mem_append, List.mem_flatMap, List.mem_flatMap]
  constructor
  · rintro (⟨file, source, member⟩ | ⟨file, source, member⟩)
    · obtain ⟨s, block, called⟩ := List.mem_flatMap.mp member
      unfold stepsOf at called
      split at called
      · rename_i outline
        exact .expanded source block outline called
      · rename_i plain
        obtain ⟨⟨step, line⟩, live, equal⟩ := List.mem_map.mp called
        obtain ⟨title, kept, card, -⟩ := Feature.ofText_mem_blocks block
        rw [card] at equal
        cases equal
        exact .live source block (by simpa using plain) live
    · obtain ⟨d, definition, called⟩ := List.mem_flatMap.mp member
      obtain ⟨⟨place, text⟩, call, equal⟩ := List.mem_map.mp called
      cases equal
      exact .nested source definition call
  · intro calls
    cases calls with
    | @live file s t line source block plain step =>
        refine .inl ⟨file, source, List.mem_flatMap.mpr ⟨s, block, ?_⟩⟩
        obtain ⟨title, kept, card, -⟩ := Feature.ofText_mem_blocks block
        rw [stepsOf, plain]
        exact List.mem_map.mpr ⟨(t, line), step, by rw [card]; rfl⟩
    | @expanded file s l t source block outline step =>
        refine .inl ⟨file, source, List.mem_flatMap.mpr ⟨s, block, ?_⟩⟩
        rw [stepsOf, outline]
        exact step
    | @nested file d l t source definition call =>
        refine .inr ⟨file, source, List.mem_flatMap.mpr ⟨d, definition, ?_⟩⟩
        exact List.mem_map.mpr ⟨(l, t), call, rfl⟩

/-- How many rows of the example table are not commented out. -/
def liveRows (s : Scenario) : Nat := (s.exampleTable.2.filter fun r => !r.commented).length

theorem blocks_length (blocks : List Scenario) :
    (blocks.flatMap stepsOf).length =
      ((blocks.filter fun s => !s.isOutline).map fun s => s.liveSteps.length).sum +
        ((blocks.filter fun s => s.isOutline).map fun s => liveRows s * s.liveSteps.length).sum := by
  induction blocks with
  | nil => rfl
  | cons s blocks ih =>
      rw [List.flatMap_cons, List.length_append, ih]
      cases outline : s.isOutline with
      | true =>
          simp only [stepsOf, outline, if_true, Scenario.expansion_length, List.filter_cons,
            Bool.not_true, Bool.false_eq_true, if_false, List.map_cons, List.sum_cons, liveRows]
          omega
      | false =>
          simp only [stepsOf, outline, Bool.false_eq_true, if_false, List.length_map,
            List.filter_cons, Bool.not_false, if_true, List.map_cons, List.sum_cons]
          omega

/-- The universe of a suite whose files have different paths holds what the files call, all of it and
nothing else: no two calls are at one place, so none is lost. -/
theorem build_lossless (featureFiles stepFiles : List SourceFile)
    (paths : DistinctPaths (featureFiles ++ stepFiles)) :
    let features := featureFiles.map fun f => Feature.ofText f.path f.text
    let definitions := stepFiles.flatMap fun f => StepDefinition.ofText f.path f.text
    let blocks := features.flatMap Feature.blocks
    (∀ l t, (l, t) ∈ build features definitions ↔ Calls featureFiles stepFiles l t) ∧
      List.Perm (build features definitions).calls (callsOf features definitions) ∧
      (callsOf features definitions).Pairwise (fun a b => a.1.order b.1 ≠ .eq) ∧
      (build features definitions).length =
        ((blocks.filter fun s => !s.isOutline).map fun s => s.liveSteps.length).sum +
        ((blocks.filter fun s => s.isOutline).map fun s => liveRows s * s.liveSteps.length).sum +
        (definitions.map fun d => d.nested.length).sum := by
  intro features definitions blocks
  have distinct : DistinctCalls (callsOf features definitions) := callsOf_ofFiles_distinct paths
  have perm : List.Perm (build features definitions).calls (callsOf features definitions) :=
    build_perm distinct
  refine ⟨fun l t => ?_, perm, ?_, ?_⟩
  · exact perm.mem_iff.trans mem_callsOf_ofFiles
  · exact distinct.imp fun differ same => differ (StepLocation.order_eq_iff.mp same)
  · have calls : callsOf features definitions =
        blocks.flatMap stepsOf ++ definitions.flatMap nestedOf := by
      simp only [callsOf, blocks, List.flatMap_assoc]
    rw [length, perm.length_eq, calls, List.length_append, blocks_length, List.length_flatMap]
    simp only [nestedOf, List.length_map]

end Universe

/-- A feature with a background and an outline of which one row is commented out. -/
def cartFeature : SourceFile where
  path := ⟨"cart.feature"⟩
  text := "Background:\nGiven a\nScenario Outline:\n* <n>\nExamples:\n|n|\n|1|\n#|2|\n|3|"

/-- Definitions of which the first calls a step on the line of its declaration. -/
def cartSteps : SourceFile where
  path := ⟨"cart.rb"⟩
  text := "Given /a/ \x7b step 'b' \x7d\nWhen 'b' do\nstep 'c'\nend"

theorem Universe.build_lossless_cart :
    DistinctPaths ([cartFeature] ++ [cartSteps]) ∧
      (build ([cartFeature].map fun f => Feature.ofText f.path f.text)
        ([cartSteps].flatMap fun f => StepDefinition.ofText f.path f.text)).length = 5 := by
  have paths : DistinctPaths ([cartFeature] ++ [cartSteps]) := by decide
  refine ⟨paths, ?_⟩
  rw [(build_lossless [cartFeature] [cartSteps] paths).2.2.2]
  decide +kernel

end SuiteAudit
