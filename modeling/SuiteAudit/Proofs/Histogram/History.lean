import Mathlib.Data.Finset.Card
import SuiteAudit.Proofs.Histogram

/-!
# Histories of histograms

A histogram starts empty, and phrases are added to it, other histograms are merged into it and it is
put into the order of its counts. Whatever the history, it holds each phrase once with all that was
ever added for it: `Holds` is what every operation keeps, and `histogram_holds` is what a whole
history leaves.
-/

namespace SuiteAudit.Histogram

/-! ## Histories -/

/-- What was done to a histogram, and in turn to the histograms merged into it. -/
inductive History
  | empty
  | increment (s : History) (phrase : Text)
  | add (s : History) (phrase : Text) (n : Nat)
  | merge (s other : History)
  /-- The histogram is collected again from its entries by falling count. -/
  | sort (s : History)
deriving DecidableEq, Repr

namespace History

/-- The histogram that a history leaves. -/
def histogram : History → Histogram
  | empty => {}
  | increment s phrase => s.histogram.increment phrase
  | add s phrase n => s.histogram.add phrase n
  | merge s other => s.histogram.merge other.histogram
  | sort s => ofList s.histogram.byCount

/-- The phrases that were ever added, each time with the count that was added. -/
def added : History → List (Text × Nat)
  | empty => []
  | increment s phrase => s.added ++ [(phrase, 1)]
  | add s phrase n => s.added ++ [(phrase, n)]
  | merge s other => s.added ++ other.added
  | sort s => s.added

end History

/-! ## What a histogram holds -/

theorem weight_append (phrase : Text) (entries more : List (Text × Nat)) :
    weight phrase (entries ++ more) = weight phrase entries + weight phrase more := by
  simp [weight]

/-- The histogram holds what was added: the entry of a phrase has all that was added for it. -/
structure Holds (h : Histogram) (added : List (Text × Nat)) : Prop where
  weight_eq : ∀ phrase, weight phrase h.entries = weight phrase added
  mem_phrases : ∀ phrase, phrase ∈ h.phrases ↔ phrase ∈ added.map Prod.fst
  total_eq : h.total = (added.map Prod.snd).sum

namespace Holds

variable {h g : Histogram} {added more : List (Text × Nat)}

theorem empty : Holds {} [] := ⟨fun _ => rfl, fun _ => Iff.rfl, rfl⟩

theorem addAll (holds : Holds h added) (entries : List (Text × Nat)) :
    Holds (h.addAll entries) (added ++ entries) where
  weight_eq phrase := by rw [weight_addAll, weight_append, holds.weight_eq]
  mem_phrases phrase := by
    rw [phrases_addAll, List.mem_eraseDups, List.mem_append, List.map_append,
      List.mem_append, holds.mem_phrases]
  total_eq := by rw [total_addAll, holds.total_eq, List.map_append, List.sum_append]

theorem add (holds : Holds h added) (phrase : Text) (n : Nat) :
    Holds (h.add phrase n) (added ++ [(phrase, n)]) :=
  holds.addAll [(phrase, n)]

/-- Only the entries of the other histogram are read, and they say what was added to it. -/
theorem merge (holds : Holds h added) (other : Holds g more) :
    Holds (h.merge g) (added ++ more) := by
  have merged : Holds (h.merge g) (added ++ g.entries) := holds.addAll g.entries
  have phrases (phrase : Text) : phrase ∈ g.entries.map Prod.fst ↔ phrase ∈ more.map Prod.fst :=
    other.mem_phrases phrase
  have sums : (g.entries.map Prod.snd).sum = (more.map Prod.snd).sum :=
    g.total_eq_sum.symm.trans other.total_eq
  refine ⟨fun phrase => ?_, fun phrase => ?_, ?_⟩
  · rw [merged.weight_eq, weight_append, weight_append, other.weight_eq]
  · rw [merged.mem_phrases, List.map_append, List.map_append, List.mem_append, List.mem_append,
      phrases]
  · rw [merged.total_eq, List.map_append, List.map_append, List.sum_append, List.sum_append, sums]

end Holds

theorem Holds.sort {h : Histogram} {added : List (Text × Nat)} (holds : Holds h added) :
    Holds (ofList h.byCount) added := by
  -- No entry is merged with another, since they are entries of distinct phrases.
  have same : (ofList h.byCount).entries = h.byCount := entries_ofList h.byCount
  have perm : h.byCount.Perm h.entries := h.byCount_perm
  refine ⟨fun phrase => ?_, fun phrase => ?_, ?_⟩
  · rw [same, weight_of_perm perm, holds.weight_eq]
  · rw [← holds.mem_phrases, phrases, same]
    exact (perm.map Prod.fst).mem_iff
  · rw [total_eq_sum, same, (perm.map Prod.snd).sum_nat, ← total_eq_sum, holds.total_eq]

namespace History

theorem histogram_holds (s : History) : Holds s.histogram s.added := by
  induction s with
  | empty => exact .empty
  | increment s phrase ih => exact ih.add phrase 1
  | add s phrase n ih => exact ih.add phrase n
  | merge s other ih ih' => exact ih.merge ih'
  | sort s ih => exact ih.sort

/-- Whatever the history of a histogram, its phrases are distinct, it counts what was added and no
more, and its entries can be sorted by count and collected again without loss. -/
theorem histogram_counts (s : History) :
    (s.histogram.entries.map Prod.fst).Nodup ∧
      (∀ phrase, s.histogram.count phrase = weight phrase s.added) ∧
      s.histogram.total = (s.added.map Prod.snd).sum ∧
      s.histogram.entries.length = (s.added.map Prod.fst).toFinset.card ∧
      s.histogram.byCount.Perm s.histogram.entries ∧
      (s.histogram.byCount.Pairwise fun a b => b.2 ≤ a.2) ∧
      (∀ n, (s.histogram.byCount.filter fun e => e.2 = n) =
        s.histogram.entries.filter fun e => e.2 = n) ∧
      (ofList s.histogram.byCount).entries = s.histogram.byCount := by
  obtain ⟨weight_eq, mem_phrases, total_eq⟩ := s.histogram_holds
  have nodup := s.histogram.nodup_phrases
  have size : s.histogram.entries.length = (s.added.map Prod.fst).toFinset.card := by
    have seen : (s.added.map Prod.fst).toFinset = s.histogram.phrases.toFinset := by
      ext phrase
      rw [List.mem_toFinset, List.mem_toFinset, mem_phrases]
    rw [seen, List.toFinset_card_of_nodup nodup, phrases, List.length_map]
  refine ⟨nodup, fun phrase => ?_, total_eq, size, s.histogram.byCount_perm,
    s.histogram.byCount_pairwise, s.histogram.filter_byCount, ?_⟩
  · rw [count_eq_weight, weight_eq]
  · exact entries_ofList _

end History

end SuiteAudit.Histogram
