/-!
# Maps in key order

A map is kept as a list of entries. The entries of a map that was built by insertions stand in the
order of their keys, and keys that the order takes for equal are one key
(`Sorted.insertAll_ordered`).
-/

namespace SuiteAudit

/-- A map as its entries in the order of their keys. -/
abbrev Sorted (κ α : Type) := List (κ × α)

namespace Sorted

variable {κ α : Type}

/-- The map with `f` applied to the value at a key, which is `none` if the key is new. A key that is
there already keeps its spelling. -/
def alter (order : κ → κ → Ordering) (k : κ) (f : Option α → α) : Sorted κ α → Sorted κ α
  | [] => [(k, f none)]
  | (k', v) :: m => match order k k' with
    | .lt => (k, f none) :: (k', v) :: m
    | .eq => (k', f (some v)) :: m
    | .gt => (k', v) :: alter order k f m

def insert (order : κ → κ → Ordering) (k : κ) (v : α) (m : Sorted κ α) : Sorted κ α :=
  alter order k (fun _ => v) m

def insertAll (order : κ → κ → Ordering) (entries : List (κ × α)) (m : Sorted κ α) : Sorted κ α :=
  entries.foldl (fun m (k, v) => insert order k v m) m

def get? (order : κ → κ → Ordering) (k : κ) (m : Sorted κ α) : Option α :=
  (m.find? fun e => order k e.1 == .eq).map Prod.snd

/-! ## The order of the keys -/

open Std

variable {order : κ → κ → Ordering}

/-- The keys stand in their order, none of them twice. -/
def Ordered (order : κ → κ → Ordering) (m : Sorted κ α) : Prop :=
  m.Pairwise fun a b => order a.1 b.1 = .lt

instance (m : Sorted κ α) : Decidable (Ordered order m) :=
  inferInstanceAs (Decidable (List.Pairwise _ m))

theorem ordered_nil : Ordered order ([] : Sorted κ α) := List.Pairwise.nil

theorem ordered_cons {e : κ × α} {m : Sorted κ α} :
    Ordered order (e :: m) ↔ (∀ e' ∈ m, order e.1 e'.1 = .lt) ∧ Ordered order m :=
  List.pairwise_cons

theorem mem_alter [ReflCmp order] {k : κ} {f : Option α → α} {m : Sorted κ α} {e : κ × α}
    (member : e ∈ alter order k f m) :
    e ∈ m ∨ order k e.1 = .eq ∧
      (e = (k, f none) ∨ ∃ v, (e.1, v) ∈ m ∧ e.2 = f (some v)) := by
  induction m with
  | nil =>
      obtain rfl := List.mem_singleton.mp member
      exact .inr ⟨ReflCmp.compare_self, .inl rfl⟩
  | cons head m ih =>
      obtain ⟨k', v⟩ := head
      unfold alter at member
      split at member
      · rcases List.mem_cons.mp member with rfl | old
        · exact .inr ⟨ReflCmp.compare_self, .inl rfl⟩
        · exact .inl old
      · rename_i same
        rcases List.mem_cons.mp member with rfl | old
        · exact .inr ⟨same, .inr ⟨v, by simp, rfl⟩⟩
        · exact .inl (List.mem_cons_of_mem _ old)
      · rcases List.mem_cons.mp member with rfl | rest
        · exact .inl (by simp)
        · rcases ih rest with old | ⟨same, new | ⟨w, old, value⟩⟩
          · exact .inl (List.mem_cons_of_mem _ old)
          · exact .inr ⟨same, .inl new⟩
          · exact .inr ⟨same, .inr ⟨w, List.mem_cons_of_mem _ old, value⟩⟩

theorem alter_ordered [TransCmp order] (k : κ) (f : Option α → α) {m : Sorted κ α}
    (ordered : Ordered order m) : Ordered order (alter order k f m) := by
  induction m with
  | nil => exact List.pairwise_singleton _ _
  | cons head m ih =>
      obtain ⟨k', v⟩ := head
      obtain ⟨least, rest⟩ := ordered_cons.mp ordered
      unfold alter
      split
      · rename_i less
        refine ordered_cons.mpr ⟨fun e member => ?_, ordered⟩
        rcases List.mem_cons.mp member with rfl | old
        · exact less
        · exact TransCmp.lt_trans less (least e old)
      · exact ordered_cons.mpr ⟨least, rest⟩
      · rename_i greater
        refine ordered_cons.mpr ⟨fun e member => ?_, ih rest⟩
        have below : order k' k = .lt := OrientedCmp.lt_of_gt greater
        rcases mem_alter member with old | ⟨same, -⟩
        · exact least e old
        · exact TransCmp.lt_of_lt_of_eq below same

theorem insertAll_ordered [TransCmp order] (entries : List (κ × α)) {m : Sorted κ α}
    (ordered : Ordered order m) : Ordered order (insertAll order entries m) := by
  induction entries generalizing m with
  | nil => exact ordered
  | cons e entries ih => exact ih (alter_ordered _ _ ordered)

end Sorted

end SuiteAudit
