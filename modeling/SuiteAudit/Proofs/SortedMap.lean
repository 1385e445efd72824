import SuiteAudit.SortedMap

/-!
# Maps in key order

What insertion does to a map that is kept as a list in the order of its keys. Keys that the order
takes for equal are one key, so all statements are up to `order a b = .eq`:

* a map whose keys are in order is determined by its entries (`Ordered.eq_of_perm`);
* a new key loses no entry and adds one (`insertAll_perm`), an old one keeps its spelling and gets
  the new value (`mem_alter`), and no other key is touched (`get?_alter`).
-/

namespace SuiteAudit.Sorted
open Std

variable {κ α : Type} {order : κ → κ → Ordering}

@[simp] theorem insertAll_nil (m : Sorted κ α) : insertAll order [] m = m := rfl

@[simp] theorem insertAll_cons (e : κ × α) (entries : List (κ × α)) (m : Sorted κ α) :
    insertAll order (e :: entries) m = insertAll order entries (insert order e.1 e.2 m) := rfl

/-! ## Entries after an insertion -/

theorem mem_alter_of_ne {k : κ} {f : Option α → α} {m : Sorted κ α} {e : κ × α}
    (member : e ∈ m) (other : order k e.1 ≠ .eq) : e ∈ alter order k f m := by
  induction m with
  | nil => exact absurd member (by simp)
  | cons head m ih =>
      obtain ⟨k', v⟩ := head
      unfold alter
      rcases List.mem_cons.mp member with rfl | old
      · split
        · simp
        · contradiction
        · simp
      · split
        · simp [old]
        · simp [old]
        · exact List.mem_cons_of_mem _ (ih old)

theorem exists_mem_insert [ReflCmp order] (k : κ) (v : α) (m : Sorted κ α) :
    ∃ e ∈ insert order k v m, order k e.1 = .eq ∧ e.2 = v := by
  unfold insert
  induction m with
  | nil => exact ⟨(k, v), by simp [alter], ReflCmp.compare_self, rfl⟩
  | cons head m ih =>
      obtain ⟨k', w⟩ := head
      unfold alter
      split
      · exact ⟨(k, v), by simp, ReflCmp.compare_self, rfl⟩
      · rename_i same
        exact ⟨(k', v), by simp, same, rfl⟩
      · obtain ⟨e, member, found⟩ := ih
        exact ⟨e, List.mem_cons_of_mem _ member, found⟩

theorem alter_ne_nil (k : κ) (f : Option α → α) (m : Sorted κ α) : alter order k f m ≠ [] := by
  cases m with
  | nil => simp [alter]
  | cons head m =>
      obtain ⟨k', v⟩ := head
      unfold alter
      split <;> simp

theorem insertAll_eq_nil_iff {entries : List (κ × α)} {m : Sorted κ α} :
    insertAll order entries m = [] ↔ entries = [] ∧ m = [] := by
  induction entries generalizing m with
  | nil => simp
  | cons e entries ih =>
      rw [insertAll_cons, ih]
      simp [insert, alter_ne_nil]

/-! ## Lists as values -/

/-- A row that is added to the rows of a key is added to all rows. -/
theorem flatMap_alter_perm (order : κ → κ → Ordering) (k : κ) (row : α) (m : Sorted κ (List α)) :
    ((m.alter order k fun rows => rows.getD [] ++ [row]).flatMap Prod.snd).Perm
      (m.flatMap Prod.snd ++ [row]) := by
  induction m with
  | nil => exact .refl _
  | cons head m ih =>
      obtain ⟨k', rows⟩ := head
      unfold alter
      split
      · exact (List.perm_append_singleton row _).symm
      · rw [List.flatMap_cons, List.flatMap_cons, List.append_assoc]
        simp only [Option.getD_some, List.append_assoc]
        exact List.perm_append_comm.append_left rows
      · rw [List.flatMap_cons, List.flatMap_cons, List.append_assoc]
        exact ih.append_left rows

/-! ## New keys -/

theorem alter_perm {k : κ} {f : Option α → α} {m : Sorted κ α}
    (fresh : ∀ e ∈ m, order k e.1 ≠ .eq) : (alter order k f m).Perm ((k, f none) :: m) := by
  induction m with
  | nil => exact .refl _
  | cons head m ih =>
      obtain ⟨k', v⟩ := head
      unfold alter
      split
      · exact .refl _
      · rename_i same
        exact absurd same (fresh (k', v) (by simp))
      · exact ((ih fun e member => fresh e (List.mem_cons_of_mem _ member)).cons _).trans
          (List.Perm.swap _ _ _)

theorem insertAll_perm [OrientedCmp order] {entries : List (κ × α)} {m : Sorted κ α}
    (distinct : (entries ++ m).Pairwise fun a b => order a.1 b.1 ≠ .eq) :
    (insertAll order entries m).Perm (entries ++ m) := by
  induction entries generalizing m with
  | nil => exact .refl _
  | cons e entries ih =>
      obtain ⟨fresh, rest⟩ := List.pairwise_cons.mp distinct
      have step : (insert order e.1 e.2 m).Perm (e :: m) :=
        alter_perm fun e' member => fresh e' (List.mem_append_right _ member)
      have moved : (entries ++ insert order e.1 e.2 m).Perm (e :: (entries ++ m)) :=
        (step.append_left entries).trans List.perm_middle
      have symmetric : ∀ {a b : κ × α}, order a.1 b.1 ≠ .eq → order b.1 a.1 ≠ .eq :=
        fun differ same => differ (OrientedCmp.eq_symm same)
      exact (ih (moved.symm.pairwise distinct symmetric)).trans moved

theorem Ordered.distinct {m : Sorted κ α} (ordered : Ordered order m) :
    m.Pairwise fun a b => order a.1 b.1 ≠ .eq :=
  ordered.imp fun less => by simp [less]

theorem Ordered.eq_of_perm [OrientedCmp order] {m n : Sorted κ α} (ordered : Ordered order m)
    (ordered' : Ordered order n) (perm : m.Perm n) : m = n := by
  refine List.Perm.eq_of_pairwise (fun a b _ _ less greater => ?_) ordered ordered' perm
  exact absurd less (OrientedCmp.not_lt_of_lt greater)

theorem insertAll_of_ordered [TransCmp order] {m : Sorted κ α} (ordered : Ordered order m) :
    insertAll order m [] = m := by
  refine (insertAll_ordered m ordered_nil).eq_of_perm ordered ?_
  simpa using insertAll_perm (m := []) (by simpa using ordered.distinct)

/-! ## Known entries -/

theorem insert_eq_self [TransCmp order] {k : κ} {m : Sorted κ α} (ordered : Ordered order m)
    {e : κ × α} (member : e ∈ m) (same : order k e.1 = .eq) : insert order k e.2 m = m := by
  unfold insert
  induction m with
  | nil => exact absurd member (by simp)
  | cons head m ih =>
      obtain ⟨k', v⟩ := head
      obtain ⟨least, rest⟩ := ordered_cons.mp ordered
      unfold alter
      rcases List.mem_cons.mp member with rfl | old
      · rw [same]
      · -- The head comes before `e`, so the search goes on behind it.
        have greater : order k k' = .gt :=
          OrientedCmp.gt_of_lt (TransCmp.lt_of_lt_of_eq (least e old) (OrientedCmp.eq_symm same))
        rw [greater, ih rest old]

theorem insertAll_eq_self [TransCmp order] {entries : List (κ × α)} {m : Sorted κ α}
    (ordered : Ordered order m)
    (known : ∀ e ∈ entries, ∃ e' ∈ m, order e.1 e'.1 = .eq ∧ e'.2 = e.2) :
    insertAll order entries m = m := by
  induction entries with
  | nil => rfl
  | cons e entries ih =>
      obtain ⟨e', member, same, value⟩ := known e (by simp)
      rw [insertAll_cons, ← value, insert_eq_self ordered member same]
      exact ih fun l later => known l (List.mem_cons_of_mem _ later)

theorem mem_insertAll_of_ne {entries : List (κ × α)} {m : Sorted κ α} {e : κ × α} (member : e ∈ m)
    (other : ∀ l ∈ entries, order l.1 e.1 ≠ .eq) : e ∈ insertAll order entries m := by
  induction entries generalizing m with
  | nil => exact member
  | cons l entries ih =>
      exact ih (mem_alter_of_ne member (other l (by simp)))
        fun l' later => other l' (List.mem_cons_of_mem _ later)

theorem exists_mem_insertAll [TransCmp order] {entries : List (κ × α)} {m : Sorted κ α}
    (distinct : entries.Pairwise fun a b => order a.1 b.1 ≠ .eq) {e : κ × α}
    (member : e ∈ entries) :
    ∃ e' ∈ insertAll order entries m, order e.1 e'.1 = .eq ∧ e'.2 = e.2 := by
  induction entries generalizing m with
  | nil => exact absurd member (by simp)
  | cons head entries ih =>
      obtain ⟨fresh, rest⟩ := List.pairwise_cons.mp distinct
      rcases List.mem_cons.mp member with rfl | later
      · -- The entry that the insertion of `e` leaves is not touched by the entries after it.
        obtain ⟨e', there, same, value⟩ := @exists_mem_insert κ α order _ e.1 e.2 m
        rw [insertAll_cons]
        refine ⟨e', mem_insertAll_of_ne there fun l member collide => ?_, same, value⟩
        exact fresh l member (TransCmp.eq_trans same (OrientedCmp.eq_symm collide))
      · exact ih rest later

theorem mem_insertAll [TransCmp order] {entries : List (κ × α)} {m : Sorted κ α} {e : κ × α}
    (member : e ∈ insertAll order entries m) :
    e ∈ m ∨ ∃ e' ∈ entries, order e'.1 e.1 = .eq ∧ e'.2 = e.2 := by
  induction entries generalizing m with
  | nil => exact .inl member
  | cons head entries ih =>
      rcases ih member with step | ⟨e', inserted, found⟩
      · rcases mem_alter step with old | ⟨same, rfl | ⟨v, -, value⟩⟩
        · exact .inl old
        · exact .inr ⟨head, by simp, same, rfl⟩
        · exact .inr ⟨head, by simp, same, value.symm⟩
      · exact .inr ⟨e', List.mem_cons_of_mem _ inserted, found⟩

/-! ## Looking up -/

theorem exists_of_get? {k : κ} {m : Sorted κ α} {v : α} (found : get? order k m = some v) :
    ∃ e ∈ m, order k e.1 = .eq ∧ e.2 = v := by
  unfold get? at found
  obtain ⟨e, hit, rfl⟩ := Option.map_eq_some_iff.mp found
  exact ⟨e, List.mem_of_find?_eq_some hit, by simpa using List.find?_some hit, rfl⟩

theorem get?_of_mem [TransCmp order] {k : κ} {m : Sorted κ α} (ordered : Ordered order m)
    {e : κ × α} (member : e ∈ m) (same : order k e.1 = .eq) : get? order k m = some e.2 := by
  unfold get?
  induction m with
  | nil => exact absurd member (by simp)
  | cons head m ih =>
      obtain ⟨least, rest⟩ := ordered_cons.mp ordered
      rcases List.mem_cons.mp member with rfl | old
      · simp [same]
      · have greater : order k head.1 = .gt :=
          OrientedCmp.gt_of_lt (TransCmp.lt_of_lt_of_eq (least e old) (OrientedCmp.eq_symm same))
        simpa [List.find?_cons, greater] using ih rest old

theorem get?_cons {k : κ} {e : κ × α} {m : Sorted κ α} :
    get? order k (e :: m) = if order k e.1 = .eq then some e.2 else get? order k m := by
  unfold get?
  split
  case isTrue same => simp [same]
  case isFalse other => rw [List.find?_cons_of_neg (by simpa using other)]

theorem get?_eq_none {k : κ} {m : Sorted κ α} (less : ∀ e ∈ m, order k e.1 = .lt) :
    get? order k m = none := by
  rw [get?, Option.map_eq_none_iff, List.find?_eq_none]
  intro e member
  simp [less e member]

theorem get?_alter [TransCmp order] {m : Sorted κ α} (ordered : Ordered order m) (k k₀ : κ)
    (f : Option α → α) :
    get? order k (alter order k₀ f m) =
      if order k k₀ = .eq then some (f (get? order k m)) else get? order k m := by
  induction m with
  | nil =>
      rw [alter, get?_cons]
      rfl
  | cons head m ih =>
      obtain ⟨k', v⟩ := head
      obtain ⟨least, rest⟩ := ordered_cons.mp ordered
      unfold alter
      split
      case h_1 less =>
        rw [get?_cons]
        split
        case isTrue same =>
          -- The new key stands before all others.
          have before := TransCmp.lt_of_eq_of_lt same less
          rw [get?_eq_none]
          intro e member
          rcases List.mem_cons.mp member with rfl | old
          · exact before
          · exact TransCmp.lt_trans before (least e old)
        case isFalse => rfl
      case h_2 same =>
        have keys : order k k₀ = .eq ↔ order k k' = .eq :=
          ⟨fun left => TransCmp.eq_trans left same,
            fun left => TransCmp.eq_trans left (OrientedCmp.eq_symm same)⟩
        simp only [get?_cons, keys]
        split <;> rfl
      case h_3 greater =>
        rw [get?_cons, get?_cons, ih rest]
        split
        case isTrue same =>
          have differ : order k k₀ ≠ .eq := by
            have less := TransCmp.lt_of_eq_of_lt same (OrientedCmp.lt_of_gt greater)
            simp [less]
          rw [if_neg differ]
        case isFalse => rfl

theorem get?_isSome_iff {k : κ} {m : Sorted κ α} :
    (get? order k m).isSome = true ↔ ∃ k' ∈ m.map Prod.fst, order k k' = .eq := by
  simp [get?]

theorem keys_subset_alter (k : κ) (f : Option α → α) (m : Sorted κ α) :
    m.map Prod.fst ⊆ (alter order k f m).map Prod.fst := by
  induction m with
  | nil => exact List.nil_subset _
  | cons head m ih =>
      unfold alter
      split
      · exact List.subset_cons_self _ _
      · exact List.Subset.refl _
      · exact List.cons_subset_cons _ ih

theorem keys_subset_insertAll (entries : List (κ × α)) (m : Sorted κ α) :
    m.map Prod.fst ⊆ (insertAll order entries m).map Prod.fst := by
  induction entries generalizing m with
  | nil => exact List.Subset.refl _
  | cons e entries ih => exact List.Subset.trans (keys_subset_alter e.1 _ m) (ih _)

/-- A key that is there stays. -/
theorem isSome_get?_insertAll {k : κ} {m : Sorted κ α} (found : (get? order k m).isSome = true)
    (entries : List (κ × α)) : (get? order k (insertAll order entries m)).isSome = true := by
  obtain ⟨k', member, same⟩ := get?_isSome_iff.mp found
  exact get?_isSome_iff.mpr ⟨k', keys_subset_insertAll entries m member, same⟩

end SuiteAudit.Sorted
