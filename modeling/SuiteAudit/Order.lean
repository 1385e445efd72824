import SuiteAudit.Location

/-!
# The orders of paths and locations

The orders under which locations are kept are total preorders, and two locations are equal in the
order iff their paths have the same components and the line and the example are the same.
-/

namespace SuiteAudit
open Std

theorem transCmp_on {α β : Type} (order : β → β → Ordering) [TransCmp order] (f : α → β) :
    TransCmp fun a b => order (f a) (f b) where
  eq_swap := OrientedCmp.eq_swap
  isLE_trans := TransCmp.isLE_trans

/-! ## Sorting -/

section Sorting

variable {α : Type}

variable {order : α → α → Ordering} [TransCmp order]

theorem bne_gt_trans (a b c : α) (first : (order a b != .gt) = true)
    (second : (order b c != .gt) = true) : (order a c != .gt) = true := by
  simp only [bne_iff_ne, ne_eq, ← Ordering.isLE_iff_ne_gt] at first second ⊢
  exact TransCmp.isLE_trans first second

theorem bne_gt_total (a b : α) : (order a b != .gt || order b a != .gt) = true := by
  cases compared : order a b with
  | gt => simp [OrientedCmp.lt_of_gt compared]
  | lt => rfl
  | eq => rfl

end Sorting

/-! ## Texts -/

theorem Text.order_eq_compareLex : Text.order = List.compareLex (compareOn Char.toNat) := by
  funext s t
  induction s generalizing t with
  | nil => cases t <;> rfl
  | cons c s ih =>
      cases t with
      | nil => rfl
      | cons d t => simp only [Text.order, List.compareLex_cons_cons, compareOn, ih]

instance : TransCmp Text.order := by
  rw [Text.order_eq_compareLex]
  infer_instance

instance : LawfulEqCmp Text.order where
  compare_self := ReflCmp.compare_self
  eq_of_compare {s t} h := by
    induction s generalizing t with
    | nil => cases t <;> simp_all [Text.order]
    | cons c s ih =>
        cases t with
        | nil => simp [Text.order] at h
        | cons d t =>
            simp only [Text.order, Ordering.then_eq_eq, Nat.compare_eq_eq, Char.toNat_inj] at h
            rw [h.1, ih h.2]

/-! ## Paths -/

/-- The name of a component, empty if it has none. -/
def Component.label : Component → Text
  | .name n => n
  | _ => []

theorem Component.order_eq (a b : Component) :
    a.order b = (compare a.rank b.rank).then (Text.order a.label b.label) := by
  cases a <;> cases b <;> rfl

instance : TransCmp Component.order := by
  have h : Component.order = compareLex (compareOn Component.rank)
      (fun a b => Text.order a.label b.label) := by
    funext a b
    exact Component.order_eq a b
  have := transCmp_on Text.order Component.label
  rw [h]
  infer_instance

instance : LawfulEqCmp Component.order where
  compare_self := ReflCmp.compare_self
  eq_of_compare {a b} h := by
    rw [Component.order_eq, Ordering.then_eq_eq, Nat.compare_eq_eq,
      LawfulEqCmp.compare_eq_iff_eq] at h
    cases a <;> cases b <;> simp_all [Component.rank, Component.label]

theorem SourcePath.orderComponents_eq_compareLex :
    SourcePath.orderComponents = List.compareLex Component.order := by
  funext as bs
  induction as generalizing bs with
  | nil => cases bs <;> rfl
  | cons a as ih =>
      cases bs with
      | nil => rfl
      | cons b bs => simp only [SourcePath.orderComponents, List.compareLex_cons_cons, ih]

theorem SourcePath.order_eq (p q : SourcePath) :
    p.order q = List.compareLex Component.order p.components q.components := by
  unfold SourcePath.order
  split
  · rename_i h
    exact (LawfulEqCmp.compare_eq_iff_eq.mpr (congrArg components h)).symm
  · rw [SourcePath.orderComponents_eq_compareLex]

instance : TransCmp SourcePath.order := by
  rw [funext fun p => funext (SourcePath.order_eq p)]
  exact transCmp_on (List.compareLex Component.order) SourcePath.components

theorem SourcePath.order_eq_iff {p q : SourcePath} :
    p.order q = .eq ↔ p.components = q.components := by
  rw [SourcePath.order_eq, LawfulEqCmp.compare_eq_iff_eq]

/-! ## Locations -/

instance : TransCmp Location.order := by
  have := transCmp_on SourcePath.order Location.file
  exact inferInstanceAs (TransCmp (compareLex (fun a b : Location => a.file.order b.file)
    (compareOn Location.line)))

theorem Location.order_eq_iff {a b : Location} :
    a.order b = .eq ↔ a.file.components = b.file.components ∧ a.line = b.line := by
  rw [Location.order, Ordering.then_eq_eq, SourcePath.order_eq_iff, Nat.compare_eq_eq]

theorem StepLocation.orderRow_eq_compare : StepLocation.orderRow = compare := by
  funext m n
  cases m <;> cases n <;> rfl

instance : TransCmp StepLocation.order := by
  have := transCmp_on Location.order StepLocation.location
  have h : StepLocation.order = compareLex (fun a b => a.location.order b.location)
      (compareOn StepLocation.row) := by
    funext a b
    rw [StepLocation.order, StepLocation.orderRow_eq_compare]
    rfl
  rw [h]
  infer_instance

def StepLocation.key (l : StepLocation) : List Component × Nat × Option Nat :=
  (l.location.file.components, l.location.line, l.row)

theorem StepLocation.order_eq_iff {a b : StepLocation} : a.order b = .eq ↔ a.key = b.key := by
  rw [StepLocation.order, Ordering.then_eq_eq, Location.order_eq_iff,
    StepLocation.orderRow_eq_compare, LawfulEqCmp.compare_eq_iff_eq]
  simp only [StepLocation.key, Prod.mk.injEq, and_assoc]

end SuiteAudit
