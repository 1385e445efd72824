import Mathlib.Data.List.Forall2
import Mathlib.Order.Defs.Unbundled
import SuiteAudit.Proofs.Histogram
import SuiteAudit.Summary

/-!
# Sums over nodes

What a summary says of the nodes that it was made from, and that, the places of its extremes and
the order of its phrases apart, it says the same of them in every order. The least and the greatest
score are kept by one step with two comparisons (`CategorySummary.keep`), which holds the first card
that no other one beats (`foldl_keep`).
-/

namespace SuiteAudit

namespace CategorySummary

/-! ## The first of the best -/

/-- The card is the first one that no other card beats. -/
def IsFirst (beats : Nat → Nat → Prop) (cards : List ScoreCard) (c : ScoreCard) : Prop :=
  ∃ earlier later, cards = earlier ++ c :: later ∧
    (∀ d ∈ earlier, beats c.score d.score) ∧ ∀ d ∈ later, ¬ beats d.score c.score

section Beats

variable {beats : Nat → Nat → Prop}

theorem IsFirst.stays {cards : List ScoreCard} {best c : ScoreCard}
    (first : IsFirst beats cards best) (worse : ¬ beats c.score best.score) :
    IsFirst beats (cards ++ [c]) best := by
  obtain ⟨earlier, later, rfl, ahead, behind⟩ := first
  refine ⟨earlier, later ++ [c], by simp, ahead, List.forall_mem_append.mpr ⟨behind, ?_⟩⟩
  simpa using worse

theorem IsFirst.overtaken [IsTrans Nat beats] [Std.Trichotomous beats] {cards : List ScoreCard}
    {best c : ScoreCard} (first : IsFirst beats cards best) (better : beats c.score best.score) :
    IsFirst beats (cards ++ [c]) c := by
  obtain ⟨earlier, later, rfl, ahead, behind⟩ := first
  refine ⟨earlier ++ best :: later, [], rfl, fun d member => ?_, by simp⟩
  rcases List.mem_append.mp member with before | rest
  · exact trans_of beats better (ahead d before)
  · rcases List.mem_cons.mp rest with rfl | after
    · exact better
    · -- What does not beat the best one so far is equal to it or beaten by it.
      by_cases worse : beats best.score d.score
      · exact trans_of beats better worse
      · rwa [Std.Trichotomous.trichotomous (r := beats) _ _ (behind d after) worse]

theorem IsFirst.mem {cards : List ScoreCard} {best : ScoreCard} (first : IsFirst beats cards best) :
    best ∈ cards := by
  obtain ⟨earlier, later, rfl, -, -⟩ := first
  simp

theorem IsFirst.not_beats [Std.Asymm beats] {cards : List ScoreCard} {best d : ScoreCard}
    (first : IsFirst beats cards best) (member : d ∈ cards) : ¬ beats d.score best.score := by
  obtain ⟨earlier, later, rfl, ahead, behind⟩ := first
  intro better
  rcases List.mem_append.mp member with before | rest
  · exact Std.Asymm.asymm _ _ better (ahead d before)
  · rcases List.mem_cons.mp rest with rfl | after
    · exact Std.Asymm.asymm _ _ better better
    · exact behind d after better

theorem IsFirst.score_eq_of_perm [Std.Trichotomous beats] [Std.Asymm beats]
    {cards others : List ScoreCard} {c d : ScoreCard} (first : IsFirst beats cards c)
    (first' : IsFirst beats others d) (perm : cards.Perm others) : c.score = d.score := by
  have worse : ¬ beats c.score d.score := first'.not_beats (perm.mem_iff.mp first.mem)
  have worse' : ¬ beats d.score c.score := first.not_beats (perm.mem_iff.mpr first'.mem)
  exact Std.Trichotomous.trichotomous (r := beats) _ _ worse worse'

variable [DecidableRel beats]

theorem foldl_keep_some [IsTrans Nat beats] [Std.Trichotomous beats] {seen : List ScoreCard}
    {best : ScoreCard} (first : IsFirst beats seen best) (cards : List ScoreCard) :
    ∃ c, IsFirst beats (seen ++ cards) c ∧
      cards.foldl (keep beats) (some best.extreme) = some c.extreme := by
  induction cards generalizing seen best with
  | nil => exact ⟨best, by simpa using first, rfl⟩
  | cons c cards ih =>
      rw [List.append_cons, List.foldl_cons, keep]
      split
      case isTrue better => exact ih (first.overtaken better)
      case isFalse worse => exact ih (first.stays worse)

variable (beats) in
theorem foldl_keep [IsTrans Nat beats] [Std.Trichotomous beats] {cards : List ScoreCard}
    (filled : cards ≠ []) :
    ∃ c, IsFirst beats cards c ∧ cards.foldl (keep beats) none = some c.extreme := by
  cases cards with
  | nil => contradiction
  | cons c cards =>
      have alone : IsFirst beats [c] c := ⟨[], [], rfl, by simp, by simp⟩
      exact foldl_keep_some alone cards

theorem foldl_keep_of_perm [IsTrans Nat beats] [Std.Trichotomous beats] [Std.Asymm beats]
    {cards others : List ScoreCard} (perm : cards.Perm others) :
    (cards.foldl (keep beats) none).map Extreme.score =
      (others.foldl (keep beats) none).map Extreme.score := by
  by_cases empty : cards = []
  · subst empty
    rw [perm.nil_eq]
  · have filled : others ≠ [] := fun none => empty (none ▸ perm).eq_nil
    obtain ⟨c, first, kept⟩ := foldl_keep beats empty
    obtain ⟨d, first', kept'⟩ := foldl_keep beats filled
    rw [kept, kept']
    exact congrArg some (first.score_eq_of_perm first' perm)

end Beats

/-! ## One pass over the cards -/

theorem foldl_add_threshold (s : CategorySummary) (cards : List ScoreCard) :
    (cards.foldl add s).threshold = s.threshold := by
  induction cards generalizing s with
  | nil => rfl
  | cons c cards ih => rw [List.foldl_cons, ih]; rfl

theorem foldl_add_total (s : CategorySummary) (cards : List ScoreCard) :
    (cards.foldl add s).total = s.total + cards.length := by
  induction cards generalizing s with
  | nil => rfl
  | cons c cards ih =>
      rw [List.foldl_cons, ih, List.length_cons]
      simp only [add]
      omega

theorem foldl_add_totalScore (s : CategorySummary) (cards : List ScoreCard) :
    (cards.foldl add s).totalScore = s.totalScore + (cards.map ScoreCard.score).sum := by
  induction cards generalizing s with
  | nil => rfl
  | cons c cards ih =>
      rw [List.foldl_cons, ih, List.map_cons, List.sum_cons]
      simp only [add]
      omega

theorem foldl_add_good (s : CategorySummary) (cards : List ScoreCard) :
    (cards.foldl add s).good = s.good + cards.countP (·.isGood s.threshold) := by
  induction cards generalizing s with
  | nil => rfl
  | cons c cards ih =>
      rw [List.foldl_cons, ih, List.countP_cons]
      simp only [add]
      split <;> omega

theorem foldl_add_bad (s : CategorySummary) (cards : List ScoreCard) :
    (cards.foldl add s).bad = s.bad + cards.countP fun c => !c.isGood s.threshold := by
  induction cards generalizing s with
  | nil => rfl
  | cons c cards ih =>
      rw [List.foldl_cons, ih, List.countP_cons]
      cases good : c.isGood s.threshold with
      | true => simp [add, good]
      | false => simp [add, good]; omega

theorem foldl_add_improvements (s : CategorySummary) (cards : List ScoreCard) :
    (cards.foldl add s).improvements =
      (cards.map ScoreCard.violations).foldl Histogram.merge s.improvements := by
  induction cards generalizing s with
  | nil => rfl
  | cons c cards ih => rw [List.foldl_cons, ih]; rfl

theorem assess_totalScore (threshold : Nat) (cards : List ScoreCard) :
    (assess threshold cards).totalScore = (cards.map ScoreCard.score).sum := by
  rw [assess, foldl_add_totalScore, Nat.zero_add]

theorem assess_least_eq (threshold : Nat) (cards : List ScoreCard) :
    (assess threshold cards).least = cards.foldl (keep (· < ·)) none :=
  (List.foldl_hom least fun _ _ => rfl).symm

theorem assess_greatest_eq (threshold : Nat) (cards : List ScoreCard) :
    (assess threshold cards).greatest = cards.foldl (keep (· > ·)) none :=
  (List.foldl_hom greatest fun _ _ => rfl).symm

theorem assess_improvements_weight (threshold : Nat) (cards : List ScoreCard) (phrase : Text) :
    Histogram.weight phrase (assess threshold cards).improvements.entries =
      (cards.map fun c => Histogram.weight phrase c.violations.entries).sum := by
  rw [assess, foldl_add_improvements, Histogram.weight_foldl_merge, List.map_map]
  exact Nat.zero_add _

/-- Two summaries that differ at most in where their extremes stand and in the order of their
phrases. -/
structure Agrees (s t : CategorySummary) : Prop where
  total : s.total = t.total
  totalScore : s.totalScore = t.totalScore
  minimum : s.minimum = t.minimum
  maximum : s.maximum = t.maximum
  threshold : s.threshold = t.threshold
  good : s.good = t.good
  bad : s.bad = t.bad
  improvements : ∀ phrase, s.improvements.count phrase = t.improvements.count phrase

theorem assess_of_perm (threshold : Nat) {cards others : List ScoreCard}
    (perm : cards.Perm others) : (assess threshold cards).Agrees (assess threshold others) := by
  have scores : (cards.map ScoreCard.score).Perm (others.map ScoreCard.score) := perm.map _
  constructor
  case total => simp only [assess, foldl_add_total, perm.length_eq]
  case totalScore => simp only [assess_totalScore, scores.sum_nat]
  case minimum =>
    rw [minimum, minimum, assess_least_eq, assess_least_eq, foldl_keep_of_perm perm]
  case maximum =>
    rw [maximum, maximum, assess_greatest_eq, assess_greatest_eq, foldl_keep_of_perm perm]
  case threshold => simp only [assess, foldl_add_threshold]
  case good => simp only [assess, foldl_add_good, perm.countP_eq]
  case bad => simp only [assess, foldl_add_bad, perm.countP_eq]
  case improvements =>
    intro phrase
    rw [Histogram.count_eq_weight, Histogram.count_eq_weight, assess_improvements_weight,
      assess_improvements_weight]
    exact (perm.map _).sum_nat

end CategorySummary

namespace SuiteSummary

theorem totalScore_eq_sum (s : SuiteSummary) :
    s.totalScore = (s.categories.map CategorySummary.totalScore).sum :=
  rfl

theorem categories_map_eq {s t : SuiteSummary} {f : CategorySummary → Nat}
    (agree : List.Forall₂ CategorySummary.Agrees s.categories t.categories)
    (same : ∀ c d, CategorySummary.Agrees c d → f c = f d) :
    s.categories.map f = t.categories.map f := by
  rw [← List.forall₂_eq_eq_eq, List.forall₂_map_left_iff, List.forall₂_map_right_iff]
  exact agree.imp same

theorem totalScore_of_agree {s t : SuiteSummary}
    (agree : List.Forall₂ CategorySummary.Agrees s.categories t.categories) :
    s.totalScore = t.totalScore := by
  rw [totalScore_eq_sum, totalScore_eq_sum,
    categories_map_eq agree fun _ _ agree => agree.totalScore]

theorem assess_categories_of_perm (thresholds : Thresholds) {features features' : List Feature}
    {definitions definitions' : List StepDefinition} {hooks hooks' : List Hook}
    (featuresPerm : features.Perm features') (definitionsPerm : definitions.Perm definitions')
    (hooksPerm : hooks.Perm hooks') :
    List.Forall₂ CategorySummary.Agrees
      (assess features definitions hooks thresholds).categories
      (assess features' definitions' hooks' thresholds).categories := by
  simp only [categories, assess, List.forall₂_cons, List.forall₂_nil_left_iff, and_true]
  refine ⟨?_, ?_, ?_, ?_⟩
  · exact CategorySummary.assess_of_perm _ (featuresPerm.map _)
  · exact CategorySummary.assess_of_perm _ (featuresPerm.flatMap_right _)
  · exact CategorySummary.assess_of_perm _ (definitionsPerm.map _)
  · exact CategorySummary.assess_of_perm _ (hooksPerm.map _)

theorem improvements_count (s : SuiteSummary) (phrase : Text) :
    s.improvements.count phrase =
      (s.categories.map fun c => Histogram.weight phrase c.improvements.entries).sum := by
  have merged : s.categories.foldl (fun h c => h.merge c.improvements) ({} : Histogram) =
      (s.categories.map CategorySummary.improvements).foldl Histogram.merge {} :=
    List.foldl_map.symm
  rw [improvements, Histogram.count_ofList, Histogram.byCount,
    Histogram.weight_of_perm (List.mergeSort_perm _ _), merged, Histogram.weight_foldl_merge,
    List.map_map]
  exact Nat.zero_add _

theorem assess_improvements_count (features : List Feature) (definitions : List StepDefinition)
    (hooks : List Hook) (thresholds : Thresholds) (phrase : Text) :
    (assess features definitions hooks thresholds).improvements.count phrase =
      ((assess features definitions hooks thresholds).categories.map
        fun c => c.improvements.count phrase).sum := by
  rw [improvements_count]
  simp only [categories, assess, List.map_cons, List.map_nil,
    Histogram.count_eq_weight]

end SuiteSummary

end SuiteAudit
