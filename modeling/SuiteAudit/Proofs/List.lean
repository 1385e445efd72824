import Mathlib.Data.List.DropRight
import Mathlib.Data.List.Forall2
import Mathlib.Data.List.Nodup
import Mathlib.Data.List.ProdSigma

/-!
# Lists

What the readers, checks and reports need of lists of whatever they are about: the first occurrences
of its elements (`List.eraseDups`), the run of elements that a test selects, and lists related
element by element.
-/

namespace SuiteAudit

variable {α β γ : Type}

/-! ## First occurrences -/

section FirstOccurrences

variable [BEq α] [LawfulBEq α]

theorem eraseDups_filter (keep : α → Bool) (xs : List α) :
    (xs.filter keep).eraseDups = xs.eraseDups.filter keep := by
  -- The recursion goes through what is left after the first element is removed everywhere.
  induction size : xs.length using Nat.strongRecOn generalizing xs with
  | ind n ih =>
    cases xs with
    | nil => rfl
    | cons x xs =>
        have shorter : (xs.filter fun y => !y == x).length < n := by
          rw [← size, List.length_cons]
          exact Nat.lt_succ_of_le (List.length_filter_le _ _)
        have rest := ih _ shorter _ rfl
        rw [List.eraseDups_cons]
        by_cases kept : keep x
        · rw [List.filter_cons_of_pos kept, List.filter_cons_of_pos kept, List.eraseDups_cons,
            ← rest, List.filter_filter, List.filter_filter]
          simp only [Bool.and_comm]
        · have same : (xs.filter fun y => !y == x).filter keep = xs.filter keep := by
            rw [List.filter_filter]
            refine List.filter_congr fun y _ => ?_
            cases keeps : keep y with
            | false => rfl
            | true =>
                have other : y ≠ x := fun equal => kept (equal ▸ keeps)
                simp [other]
          rw [List.filter_cons_of_neg kept, List.filter_cons_of_neg kept, ← rest, same]

theorem nodup_eraseDups (xs : List α) : xs.eraseDups.Nodup := by
  induction xs with
  | nil => exact List.nodup_nil
  | cons x xs ih =>
      rw [List.eraseDups_cons, eraseDups_filter, List.nodup_cons]
      exact ⟨by simp, ih.filter _⟩

theorem eraseDups_of_nodup {xs : List α} (nodup : xs.Nodup) : xs.eraseDups = xs := by
  induction xs with
  | nil => rfl
  | cons x xs ih =>
      obtain ⟨fresh, rest⟩ := List.nodup_cons.mp nodup
      rw [List.eraseDups_cons, eraseDups_filter, ih rest, List.filter_eq_self.mpr]
      intro y member
      have other : y ≠ x := fun equal => fresh (equal ▸ member)
      simp [other]

theorem eraseDups_append_left (xs ys : List α) :
    (xs.eraseDups ++ ys).eraseDups = (xs ++ ys).eraseDups := by
  simp only [List.eraseDups_append, eraseDups_of_nodup (nodup_eraseDups _), List.removeAll]
  simp

theorem eraseDups_append_right (xs ys : List α) :
    (xs ++ ys.eraseDups).eraseDups = (xs ++ ys).eraseDups := by
  simp only [List.eraseDups_append, List.removeAll, eraseDups_filter,
    eraseDups_of_nodup (nodup_eraseDups _)]

theorem eraseDups_flatMap_eraseDups (xss : List (List α)) :
    (xss.flatMap List.eraseDups).eraseDups = xss.flatten.eraseDups := by
  induction xss with
  | nil => rfl
  | cons xs xss ih =>
      rw [List.flatMap_cons, List.flatten_cons, eraseDups_append_left, ← eraseDups_append_right, ih,
        eraseDups_append_right]

theorem eraseDups_append_of_subset {xs ys : List α} (inside : ys ⊆ xs) :
    (xs ++ ys).eraseDups = xs.eraseDups := by
  have none : ys.removeAll xs = [] := by
    simpa [List.removeAll, List.filter_eq_nil_iff] using fun y member => inside member
  rw [List.eraseDups_append, none, List.eraseDups_nil, List.append_nil]

theorem eraseDups_pairwise_idxOf (xs : List α) :
    xs.eraseDups.Pairwise fun a b => xs.idxOf a < xs.idxOf b := by
  induction xs with
  | nil => exact .nil
  | cons x xs ih =>
      rw [List.eraseDups_cons, eraseDups_filter, List.pairwise_cons]
      have other {y : α} (member : y ∈ xs.eraseDups.filter fun y => !y == x) : x ≠ y := by
        have kept := (List.mem_filter.mp member).2
        rintro rfl
        simp at kept
      refine ⟨fun y member => ?_, ?_⟩
      · rw [List.idxOf_cons_self, List.idxOf_cons_ne _ (other member)]
        exact Nat.succ_pos _
      · refine (ih.sublist List.filter_sublist).imp_of_mem fun first second less => ?_
        rw [List.idxOf_cons_ne _ (other first), List.idxOf_cons_ne _ (other second)]
        exact Nat.succ_lt_succ less

end FirstOccurrences

/-! ## Runs -/

theorem rtakeWhile_congr {p q : α → Bool} {l : List α} (same : ∀ a ∈ l, p a = q a) :
    l.rtakeWhile p = l.rtakeWhile q := by
  induction l using List.reverseRecOn with
  | nil => rfl
  | append_singleton l a ih =>
      obtain ⟨front, last⟩ := List.forall_mem_append.mp same
      rw [List.rtakeWhile_concat, List.rtakeWhile_concat, ih front, last a List.mem_cons_self]

theorem dropWhile_congr {p q : α → Bool} {l : List α} (same : ∀ a ∈ l, p a = q a) :
    l.dropWhile p = l.dropWhile q := by
  induction l with
  | nil => rfl
  | cons a l ih =>
      obtain ⟨first, later⟩ := List.forall_mem_cons.mp same
      rw [List.dropWhile_cons, List.dropWhile_cons, first, ih later]

theorem findIdx?_cases (test : α → Bool) (xs : List α) :
    match xs.findIdx? test with
    | none => xs.takeWhile (fun x => !test x) = xs
    | some i => ∃ above x rest, xs = above ++ x :: rest ∧ i = above.length ∧
        xs.takeWhile (fun x => !test x) = above := by
  induction xs with
  | nil => rfl
  | cons x xs ih =>
      rw [List.findIdx?_cons, List.takeWhile_cons]
      cases here : test x with
      | true => exact ⟨[], x, xs, rfl, rfl, rfl⟩
      | false =>
          cases found : xs.findIdx? test with
          | none =>
              rw [found] at ih
              simpa using ih
          | some i =>
              rw [found] at ih
              obtain ⟨above, y, rest, split, place, before⟩ := ih
              exact ⟨x :: above, y, rest, congrArg (x :: ·) split, congrArg (· + 1) place,
                congrArg (x :: ·) before⟩

/-! ## Sorting -/

theorem filter_mergeSort {le : α → α → Bool}
    (trans : ∀ a b c, le a b = true → le b c = true → le a c = true)
    (total : ∀ a b, (le a b || le b a) = true) {p : α → Bool}
    (ties : ∀ a b, p a = true → p b = true → le a b = true) (xs : List α) :
    (xs.mergeSort le).filter p = xs.filter p := by
  have tied : (xs.filter p).Pairwise fun a b => le a b = true :=
    List.pairwise_of_forall_mem_list fun a first b second =>
      ties a b (List.mem_filter.mp first).2 (List.mem_filter.mp second).2
  have kept : (xs.filter p).Sublist (xs.mergeSort le) :=
    List.sublist_mergeSort trans total tied List.filter_sublist
  have inside := kept.filter p
  rw [List.filter_filter] at inside
  simp only [Bool.and_self] at inside
  exact (inside.eq_of_length ((List.mergeSort_perm xs le).filter p).length_eq.symm).symm

/-! ## Pairs -/

theorem map_product (f : α → γ) (as : List α) (bs : List β) :
    as.map f ×ˢ bs = (as ×ˢ bs).map (Prod.map f id) := by
  simp only [SProd.sprod, List.product, List.map_flatMap, List.flatMap_map, List.map_map]
  rfl

theorem forall₂_filter_filterMap {R : α → β → Prop} {S : α → γ → Prop}
    {test : α → Bool} {f : β → Option γ} {as : List α} {bs : List β}
    (related : List.Forall₂ R as bs)
    (kept : ∀ a b, R a b → test a = true → ∃ c, f b = some c ∧ S a c)
    (dropped : ∀ a b, R a b → test a = false → f b = none) :
    List.Forall₂ S (as.filter test) (bs.filterMap f) := by
  induction related with
  | nil => exact .nil
  | @cons a b as bs here _ ih =>
      cases passes : test a with
      | true =>
          obtain ⟨c, value, holds⟩ := kept a b here passes
          rw [List.filter_cons_of_pos passes, List.filterMap_cons_some value]
          exact .cons holds ih
      | false =>
          rw [List.filter_cons_of_neg (by simp [passes]),
            List.filterMap_cons_none (dropped a b here passes)]
          exact ih

/-! ## Results -/

theorem exists_of_isOk {ε : Type} {x : Except ε α} (ok : x.isOk = true) :
    ∃ a, x = .ok a := by
  cases x with
  | error e => cases ok
  | ok a => exact ⟨a, rfl⟩

end SuiteAudit
