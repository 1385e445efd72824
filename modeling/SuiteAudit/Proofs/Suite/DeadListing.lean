import Mathlib.Algebra.GroupWithZero.Nat
import SuiteAudit.Proofs.Suite.Growth

/-!
# The listing of dead definitions

Dead definitions are sorted by place and then collected under their files. Neither step loses one or changes the
order of two that stand on one line of one file, however the path of the file is spelled: under each path stand the
dead definitions of that file, by line (`collect_exact`).
-/

namespace SuiteAudit

/-! ## Grouping -/

namespace Sorted
open Std

variable {κ α : Type} {order : κ → κ → Ordering}

variable (order) in
/-- The map with each value at the end of the list of its key. -/
def group (entries : List (κ × α)) (m : Sorted κ (List α)) : Sorted κ (List α) :=
  entries.foldl (fun m e => alter order e.1 (fun vs => vs.getD [] ++ [e.2]) m) m

variable {entries : List (κ × α)} {m : Sorted κ (List α)}

theorem group_ordered [TransCmp order] (ordered : Ordered order m) : Ordered order (group order entries m) := by
  induction entries generalizing m with
  | nil => exact ordered
  | cons e entries ih => exact ih (alter_ordered _ _ ordered)

theorem getD_get?_group [TransCmp order] (ordered : Ordered order m) (k : κ) :
    (get? order k (group order entries m)).getD [] =
      (get? order k m).getD [] ++ (entries.filter fun e => order k e.1 = .eq).map Prod.snd := by
  induction entries generalizing m with
  | nil => simp [group]
  | cons e entries ih =>
      have rest := ih (alter_ordered e.1 (fun vs => vs.getD [] ++ [e.2]) ordered)
      rw [get?_alter ordered] at rest
      refine rest.trans ?_
      by_cases same : order k e.1 = .eq
      · simp [same]
      · simp [same]

theorem isSome_get?_group [TransCmp order] (ordered : Ordered order m) (k : κ) :
    (get? order k (group order entries m)).isSome = true ↔
      (get? order k m).isSome = true ∨ ∃ e ∈ entries, order k e.1 = .eq := by
  induction entries generalizing m with
  | nil => simp [group]
  | cons e entries ih =>
      have rest := ih (alter_ordered e.1 (fun vs => vs.getD [] ++ [e.2]) ordered)
      rw [get?_alter ordered] at rest
      refine rest.trans ?_
      by_cases same : order k e.1 = .eq
      · simp [same]
      · simp [same]

theorem sum_length_alter (k : κ) (v : α) (m : Sorted κ (List α)) :
    ((alter order k (fun vs => vs.getD [] ++ [v]) m).map fun g => g.2.length).sum =
      (m.map fun g => g.2.length).sum + 1 := by
  induction m with
  | nil => rfl
  | cons head m ih =>
      unfold alter
      split
      · simp only [List.map_cons, List.sum_cons, Option.getD_none, List.nil_append, List.length_singleton]
        omega
      · simp only [List.map_cons, List.sum_cons, Option.getD_some, List.length_append, List.length_singleton]
        omega
      · simp only [List.map_cons, List.sum_cons, ih]
        omega

theorem sum_length_group :
    ((group order entries m).map fun g => g.2.length).sum =
      (m.map fun g => g.2.length).sum + entries.length := by
  induction entries generalizing m with
  | nil => rfl
  | cons e entries ih =>
      refine ih.trans ?_
      rw [sum_length_alter, List.length_cons]
      omega

end Sorted

/-! ## The definitions of a file -/

namespace DeadSteps

/-- Whether the definition is dead and stands in the file. The path of the file may be spelled in another way. -/
def isListed (path : SourcePath) (d : StepDefinition) : Bool :=
  d.isDead && decide (d.card.location.file.components = path.components)

def inFile (path : SourcePath) (ds : List StepDefinition) : List StepDefinition :=
  (inOrder ds).filter (isListed path)

theorem inFile_perm (path : SourcePath) (ds : List StepDefinition) :
    (inFile path ds).Perm (ds.filter (isListed path)) := by
  refine ((List.mergeSort_perm _ _).filter (isListed path)).trans (.of_eq ?_)
  rw [List.filter_filter]
  refine List.filter_congr fun d _ => ?_
  cases dead : d.isDead <;> simp [isListed, dead]

theorem inFile_pairwise (path : SourcePath) (ds : List StepDefinition) :
    (inFile path ds).Pairwise fun d e => d.card.location.line ≤ e.card.location.line := by
  refine ((pairwise_mergeSort_places _).sublist List.filter_sublist).imp_of_mem fun first second placed => ?_
  have left := (List.mem_filter.mp first).2
  have right := (List.mem_filter.mp second).2
  simp only [isListed, Bool.and_eq_true, decide_eq_true_eq] at left right
  have file := SourcePath.order_eq_iff.mpr (left.2.trans right.2.symm)
  simp only [Location.order, file, Ordering.eq_then, bne_iff_ne, ne_eq, Nat.compare_eq_gt] at placed
  omega

theorem inFile_filter_line (path : SourcePath) (ds : List StepDefinition) (n : Nat) :
    (inFile path ds).filter (fun d => d.card.location.line = n) =
      (ds.filter (isListed path)).filter fun d => d.card.location.line = n := by
  have := transCmp_on Location.order fun d : StepDefinition => d.card.location
  have tied : ∀ d e : StepDefinition,
      (decide (d.card.location.line = n) && isListed path d) = true →
      (decide (e.card.location.line = n) && isListed path e) = true →
      (d.card.location.order e.card.location != .gt) = true := by
    intro d e left right
    simp only [isListed, Bool.and_eq_true, decide_eq_true_eq] at left right
    have same := Location.order_eq_iff.mpr ⟨left.2.2.trans right.2.2.symm, left.1.trans right.1.symm⟩
    simp [same]
  rw [inFile, List.filter_filter, inOrder, filter_mergeSort bne_gt_trans bne_gt_total tied,
    List.filter_filter, List.filter_filter]
  refine List.filter_congr fun d _ => ?_
  cases dead : d.isDead <;> simp [isListed, dead]

/-! ## The listing -/

theorem byFile_collect (ds : List StepDefinition) :
    (collect ds).byFile =
      Sorted.group SourcePath.order ((inOrder ds).map fun d => (d.card.location.file, entry d)) [] := by
  rw [Sorted.group, List.foldl_map]
  rfl

theorem collect_ordered (ds : List StepDefinition) : Sorted.Ordered SourcePath.order (collect ds).byFile := by
  rw [byFile_collect]
  exact Sorted.group_ordered Sorted.ordered_nil

theorem filter_inOrder (path : SourcePath) (ds : List StepDefinition) :
    (inOrder ds).filter (fun d => path.order d.card.location.file = .eq) = inFile path ds := by
  refine List.filter_congr fun d member => ?_
  rw [isListed, (mem_inOrder.mp member).2, Bool.true_and, decide_eq_decide, SourcePath.order_eq_iff]
  exact eq_comm

theorem get?_collect (ds : List StepDefinition) (path : SourcePath) :
    (Sorted.get? SourcePath.order path (collect ds).byFile).getD [] = (inFile path ds).map entry := by
  rw [byFile_collect, Sorted.getD_get?_group Sorted.ordered_nil, List.filter_map, List.map_map, ← filter_inOrder]
  rfl

theorem isSome_get?_collect {ds : List StepDefinition} {path : SourcePath} :
    (Sorted.get? SourcePath.order path (collect ds).byFile).isSome = true ↔ inFile path ds ≠ [] := by
  rw [byFile_collect, Sorted.isSome_get?_group Sorted.ordered_nil, ← filter_inOrder, Ne, List.filter_eq_nil_iff]
  simp [Sorted.get?]

theorem entries_of_mem {ds : List StepDefinition} {path : SourcePath} {es : List Text}
    (member : (path, es) ∈ (collect ds).byFile) : es = (inFile path ds).map entry ∧ es ≠ [] := by
  have found : Sorted.get? SourcePath.order path (collect ds).byFile = some es :=
    Sorted.get?_of_mem (collect_ordered ds) member Std.ReflCmp.compare_self
  have listed := get?_collect ds path
  rw [found, Option.getD_some] at listed
  have filled := isSome_get?_collect.mp (Option.isSome_of_eq_some found)
  exact ⟨listed, by simpa [listed] using filled⟩

theorem total_collect (ds : List StepDefinition) : (collect ds).total = ds.countP StepDefinition.isDead := by
  rw [List.countP_eq_length_filter]
  exact List.length_mergeSort _

theorem sum_length_collect (ds : List StepDefinition) :
    ((collect ds).byFile.map fun g => g.2.length).sum = (collect ds).total := by
  rw [byFile_collect, Sorted.sum_length_group, List.length_map]
  exact Nat.zero_add _

/-- Every dead definition is listed once, under the path of its file, and no other one. No two paths are those of one
file, and no path stands there without entries. Under a path the definitions stand by line, those of one line in the
order in which they were given. -/
theorem collect_exact (ds : List StepDefinition) :
    (collect ds).total = ds.countP StepDefinition.isDead ∧
      (collect ds).total = ((collect ds).byFile.map fun g => g.2.length).sum ∧
      (collect ds).byFile.Pairwise (fun g h => g.1.components ≠ h.1.components) ∧
      (∀ d ∈ ds, d.isDead = true → ∃ g ∈ (collect ds).byFile,
        g.1.components = d.card.location.file.components) ∧
      ∀ path es, (path, es) ∈ (collect ds).byFile → es ≠ [] ∧
        ∃ listed : List StepDefinition, es = listed.map entry ∧
          listed.Perm (ds.filter (isListed path)) ∧
          listed.Pairwise (fun d e => d.card.location.line ≤ e.card.location.line) ∧
          ∀ n, listed.filter (fun d => d.card.location.line = n) =
            (ds.filter (isListed path)).filter fun d => d.card.location.line = n := by
  refine ⟨total_collect ds, (sum_length_collect ds).symm, ?_, fun d member dead => ?_, fun path es member => ?_⟩
  · refine (collect_ordered ds).imp fun less same => ?_
    rw [SourcePath.order_eq_iff.mpr same] at less
    cases less
  · have listed : d ∈ inFile d.card.location.file ds :=
      List.mem_filter.mpr ⟨mem_inOrder.mpr ⟨member, dead⟩, by simp [isListed, dead]⟩
    obtain ⟨es, found⟩ := Option.isSome_iff_exists.mp (isSome_get?_collect.mpr (List.ne_nil_of_mem listed))
    obtain ⟨g, there, same, -⟩ := Sorted.exists_of_get? found
    exact ⟨g, there, (SourcePath.order_eq_iff.mp same).symm⟩
  · obtain ⟨listed, filled⟩ := entries_of_mem member
    exact ⟨filled, inFile path ds, listed, inFile_perm path ds, inFile_pairwise path ds, inFile_filter_line path ds⟩

def plainStep (file : String) (line : Nat) (source : Text) : StepDefinition :=
  { card := { location := ⟨⟨file⟩, line⟩ }, pattern := .ofExpression source, source, parameters := [], body := [],
    nested := [] }

/-- Two spellings of one path, two definitions on one line, and one that is called. -/
def spelledSteps : List StepDefinition :=
  [plainStep "b//s.rb" 9 "late", plainStep "a.rb" 5 "lonely", plainStep "b/s.rb" 9 "later",
    (plainStep "b/s.rb" 4 "alive").addCall ⟨⟨⟨"f.feature"⟩, 3⟩, none⟩ "alive", plainStep "b/./s.rb" 2 "early"]

theorem collect_exact_spelled :
    (collect spelledSteps).total = 4 ∧
      ∃ path es, (path, es) ∈ (collect spelledSteps).byFile ∧ path.components = SourcePath.components ⟨"b/s.rb"⟩ ∧
        ∃ listed : List StepDefinition, es = listed.map entry ∧ listed.length = 3 ∧
          (listed.filter fun d => d.card.location.line = 9).map entry = ["9: /late/", "9: /later/"] := by
  obtain ⟨total, -, -, every, all⟩ := collect_exact spelledSteps
  obtain ⟨⟨path, es⟩, member, file⟩ := every (plainStep "b//s.rb" 9 "late") List.mem_cons_self rfl
  have same : path.components = SourcePath.components ⟨"b/s.rb"⟩ := file.trans (by decide)
  have listing : isListed path = isListed ⟨"b/s.rb"⟩ := by
    funext d
    simp only [isListed, same]
  obtain ⟨-, listed, entries, perm, -, lines⟩ := all path es member
  rw [listing] at perm lines
  refine ⟨total.trans (by decide), path, es, member, same, listed, entries, ?_, ?_⟩
  · rw [perm.length_eq]
    decide +kernel
  · rw [lines]
    decide +kernel

end DeadSteps

end SuiteAudit
