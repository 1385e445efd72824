import Mathlib.Algebra.GroupWithZero.Nat
import SuiteAudit.Histogram
import SuiteAudit.Proofs.List
import SuiteAudit.Order

/-!
# Counting phrases

A histogram holds each phrase once, so what it counts is what was added, in whatever order, and its
phrases stand in the order in which they were first added (`phrases_addAll`). Sorting it by count
moves no phrases of equal count (`filter_byCount`).
-/

namespace SuiteAudit

namespace Histogram

/-! ## Counts -/

/-- How often entries hold the phrase, repeated entries added up. -/
def weight (phrase : Text) (entries : List (Text × Nat)) : Nat :=
  ((entries.filter fun e => e.1 = phrase).map Prod.snd).sum

@[simp]
theorem weight_nil (phrase : Text) : weight phrase [] = 0 := rfl

theorem weight_cons (phrase p : Text) (n : Nat) (entries : List (Text × Nat)) :
    weight phrase ((p, n) :: entries) = (if p = phrase then n else 0) + weight phrase entries := by
  by_cases same : p = phrase
  · simp [weight, same]
  · simp [weight, same]

theorem weight_of_perm {entries others : List (Text × Nat)} (perm : entries.Perm others)
    (phrase : Text) : weight phrase entries = weight phrase others :=
  ((perm.filter _).map _).sum_nat

theorem weight_of_not_mem {phrase : Text} {entries : List (Text × Nat)}
    (absent : phrase ∉ entries.map Prod.fst) : weight phrase entries = 0 := by
  have none : (entries.filter fun e => e.1 = phrase) = [] := by
    rw [List.filter_eq_nil_iff]
    intro e mem same
    exact absent (List.mem_map.mpr ⟨e, mem, of_decide_eq_true same⟩)
  simp [weight, none]

theorem weight_addTo (phrase added : Text) (n : Nat) (entries : List (Text × Nat)) :
    weight phrase (addTo added n entries) =
      weight phrase entries + if added = phrase then n else 0 := by
  induction entries with
  | nil => simp [addTo, weight_cons]
  | cons e entries ih =>
      obtain ⟨p, m⟩ := e
      by_cases same : p = added
      · subst same
        by_cases here : p = phrase
        · simp only [addTo, if_pos, weight_cons, if_pos here]
          omega
        · simp only [addTo, if_pos, weight_cons, if_neg here]
          omega
      · simp only [addTo, if_neg same, weight_cons, ih]
        omega

theorem weight_addAll (phrase : Text) (h : Histogram) (entries : List (Text × Nat)) :
    weight phrase (h.addAll entries).entries =
      weight phrase h.entries + weight phrase entries := by
  induction entries generalizing h with
  | nil => simp [addAll]
  | cons e entries ih =>
      obtain ⟨p, n⟩ := e
      have step : h.addAll ((p, n) :: entries) = (h.add p n).addAll entries := rfl
      rw [step, ih, add, weight_addTo, weight_cons]
      omega

theorem count_eq_weight (h : Histogram) (phrase : Text) :
    h.count phrase = weight phrase h.entries := by
  have distinct := h.distinct.nodup
  rw [count]
  generalize h.entries = entries at distinct ⊢
  induction entries with
  | nil => rfl
  | cons e entries ih =>
      obtain ⟨p, n⟩ := e
      rw [List.map_cons, List.nodup_cons] at distinct
      obtain ⟨fresh, rest⟩ := distinct
      by_cases here : p = phrase
      · -- The lookup stops here, and there is no second entry to be missed.
        have absent : weight phrase entries = 0 := weight_of_not_mem (here ▸ fresh)
        simp [weight_cons, here, absent]
      · simp [weight_cons, here, ih rest]

theorem count_ofList (entries : List (Text × Nat)) (phrase : Text) :
    (ofList entries).count phrase = weight phrase entries := by
  rw [count_eq_weight, ofList, weight_addAll]
  simp

theorem weight_foldl_merge (phrase : Text) (h : Histogram) (hs : List Histogram) :
    weight phrase (hs.foldl merge h).entries =
      weight phrase h.entries + (hs.map fun g => weight phrase g.entries).sum := by
  induction hs generalizing h with
  | nil => simp
  | cons g hs ih =>
      rw [List.foldl_cons, ih, merge, weight_addAll, List.map_cons, List.sum_cons]
      omega

/-! ## Phrases in order -/

/-- The phrases, each once, in the order in which they were first seen. -/
def phrases (h : Histogram) : List Text := h.entries.map Prod.fst

theorem nodup_phrases (h : Histogram) : h.phrases.Nodup := h.distinct.nodup

theorem phrases_add (h : Histogram) (phrase : Text) (n : Nat) :
    (h.add phrase n).phrases = (h.phrases ++ [phrase]).eraseDups := by
  have added : (h.add phrase n).phrases =
      if phrase ∈ h.phrases then h.phrases else h.phrases ++ [phrase] :=
    phrases_addTo phrase n h.entries
  rw [added, List.eraseDups_append, eraseDups_of_nodup h.nodup_phrases]
  split
  case isTrue seen => simp [List.removeAll, seen]
  case isFalse fresh => simp [List.removeAll, fresh, List.eraseDups_cons]

theorem phrases_addAll (h : Histogram) (entries : List (Text × Nat)) :
    (h.addAll entries).phrases = (h.phrases ++ entries.map Prod.fst).eraseDups := by
  induction entries generalizing h with
  | nil =>
      rw [List.map_nil, List.append_nil, eraseDups_of_nodup h.nodup_phrases]
      rfl
  | cons e entries ih =>
      have step : h.addAll (e :: entries) = (h.add e.1 e.2).addAll entries := rfl
      rw [step, ih, phrases_add, eraseDups_append_left, List.map_cons, ← List.append_cons]

theorem phrases_ofList (entries : List (Text × Nat)) :
    (ofList entries).phrases = (entries.map Prod.fst).eraseDups :=
  phrases_addAll {} entries

theorem count_of_mem {h : Histogram} {e : Text × Nat} (member : e ∈ h.entries) :
    h.count e.1 = e.2 := by
  have distinct := h.distinct.nodup
  rw [count]
  generalize h.entries = entries at distinct member ⊢
  induction entries with
  | nil => cases member
  | cons d entries ih =>
      rw [List.map_cons, List.nodup_cons] at distinct
      obtain ⟨fresh, rest⟩ := distinct
      rcases List.mem_cons.mp member with rfl | later
      · simp
      · have other : d.1 ≠ e.1 := fun same => fresh (same ▸ List.mem_map_of_mem later)
        rw [List.find?_cons_of_neg (by simpa using other)]
        exact ih rest later

theorem entries_eq (h : Histogram) : h.entries = h.phrases.map fun p => (p, h.count p) := by
  rw [phrases, List.map_map]
  refine (List.map_id _).symm.trans (List.map_congr_left fun e member => ?_)
  simp [count_of_mem member]

theorem entries_ofList (entries : List (Text × Nat)) [distinct : DistinctPhrases entries] :
    (ofList entries).entries = entries := by
  let h : Histogram := ⟨entries⟩
  have phrases : (ofList entries).phrases = h.phrases := by
    rw [phrases_ofList]
    exact eraseDups_of_nodup distinct.nodup
  have count (p : Text) : (ofList entries).count p = h.count p := by
    rw [count_ofList, count_eq_weight]
  rw [entries_eq, phrases]
  simp only [count]
  exact h.entries_eq.symm

theorem sum_addTo (phrase : Text) (n : Nat) (entries : List (Text × Nat)) :
    ((addTo phrase n entries).map Prod.snd).sum = (entries.map Prod.snd).sum + n := by
  induction entries with
  | nil => simp [addTo]
  | cons e entries ih =>
      obtain ⟨p, m⟩ := e
      by_cases same : p = phrase
      · simp only [addTo, if_pos same, List.map_cons, List.sum_cons]
        omega
      · simp only [addTo, if_neg same, List.map_cons, List.sum_cons, ih]
        omega

theorem total_eq_sum (h : Histogram) : h.total = (h.entries.map Prod.snd).sum := by
  rw [total, List.sum, List.foldr_map]

theorem total_addAll (h : Histogram) (entries : List (Text × Nat)) :
    (h.addAll entries).total = h.total + (entries.map Prod.snd).sum := by
  induction entries generalizing h with
  | nil => rfl
  | cons e entries ih =>
      have step : h.addAll (e :: entries) = (h.add e.1 e.2).addAll entries := rfl
      rw [step, ih, total_eq_sum, total_eq_sum, add, sum_addTo, List.map_cons, List.sum_cons]
      omega

theorem phrases_foldl_merge (h : Histogram) (hs : List Histogram) :
    (hs.foldl merge h).phrases = (h.phrases ++ hs.flatMap phrases).eraseDups := by
  induction hs generalizing h with
  | nil =>
      rw [List.flatMap_nil, List.append_nil, List.foldl_nil, eraseDups_of_nodup h.nodup_phrases]
  | cons g hs ih =>
      have merged : (h.merge g).phrases = (h.phrases ++ g.phrases).eraseDups :=
        h.phrases_addAll g.entries
      rw [List.foldl_cons, ih, merged, eraseDups_append_left, List.flatMap_cons, List.append_assoc]

/-! ## The order by count -/

private theorem atLeast_trans (a b c : Text × Nat) (first : decide (b.2 ≤ a.2) = true)
    (second : decide (c.2 ≤ b.2) = true) : decide (c.2 ≤ a.2) = true := by
  simp only [decide_eq_true_eq] at *
  omega

private theorem atLeast_total (a b : Text × Nat) :
    (decide (b.2 ≤ a.2) || decide (a.2 ≤ b.2)) = true := by
  simp only [Bool.or_eq_true, decide_eq_true_eq]
  omega

theorem byCount_pairwise (h : Histogram) : h.byCount.Pairwise fun a b => b.2 ≤ a.2 := by
  have sorted : h.byCount.Pairwise fun a b => decide (b.2 ≤ a.2) = true :=
    List.pairwise_mergeSort atLeast_trans atLeast_total h.entries
  exact sorted.imp of_decide_eq_true

theorem filter_byCount (h : Histogram) (n : Nat) :
    h.byCount.filter (fun e => e.2 = n) = h.entries.filter fun e => e.2 = n := by
  refine filter_mergeSort atLeast_trans atLeast_total (fun a b first second => ?_) h.entries
  simp only [decide_eq_true_eq] at first second ⊢
  omega

end Histogram

end SuiteAudit
