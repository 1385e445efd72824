import Mathlib.Algebra.BigOperators.Group.List.Basic
import SuiteAudit.Proofs.Summary
import SuiteAudit.Suite

/-!
# What a summary conserves

A summary neither loses nor invents anything that the cards of the suite hold: the scores add up to
its score, and its improvements are the phrases of all cards with their counts, by falling count and
then in the order in which they are first met.
-/

namespace SuiteAudit

theorem Feature.totalScore_eq (f : Feature) :
    f.totalScore = f.card.score + (f.blocks.map fun b => b.card.score).sum := by
  unfold totalScore
  induction f.blocks with
  | nil => rfl
  | cons b bs ih =>
      rw [List.foldr_cons, ih, List.map_cons, List.sum_cons]
      omega

theorem CategorySummary.assess_improvements_phrases (threshold : Nat) (cards : List ScoreCard) :
    (assess threshold cards).improvements.phrases =
      (cards.flatMap fun c => c.violations.phrases).eraseDups := by
  rw [assess, foldl_add_improvements, Histogram.phrases_foldl_merge, List.flatMap_map]
  rfl

namespace SuiteSummary

/-- The phrases of all categories, one category after the other. -/
def merged (s : SuiteSummary) : Histogram :=
  (s.categories.map CategorySummary.improvements).foldl Histogram.merge {}

theorem improvements_entries (s : SuiteSummary) : s.improvements.entries = s.merged.byCount := by
  have merged : s.categories.foldl (fun h c => h.merge c.improvements) ({} : Histogram) = s.merged :=
    List.foldl_map.symm
  rw [improvements, merged]
  -- No phrase is met twice when the sorted phrases are added up again.
  exact Histogram.entries_ofList _

theorem improvements_count_eq (s : SuiteSummary) (phrase : Text) :
    s.improvements.count phrase = s.merged.count phrase := by
  rw [Histogram.count_eq_weight, Histogram.count_eq_weight, improvements_entries]
  exact Histogram.weight_of_perm s.merged.byCount_perm phrase

theorem improvements_ties (s : SuiteSummary) (n : Nat) :
    (s.improvements.entries.filter fun e => e.2 = n).map Prod.fst =
      s.merged.phrases.filter fun p => s.improvements.count p = n := by
  rw [improvements_entries, Histogram.filter_byCount, s.merged.entries_eq, List.filter_map,
    List.map_map]
  simp only [improvements_count_eq]
  exact List.map_id _

end SuiteSummary

namespace Suite

/-- The cards of a suite, category by category: those of all features, then for each feature those of
its background and its scenarios, then those of definitions and those of hooks. -/
def cardsByCategory (s : Suite) : List ScoreCard :=
  s.features.map Feature.card ++ s.features.flatMap (fun f => f.blocks.map Scenario.card) ++
    s.definitions.map StepDefinition.card ++ s.hooks.map Hook.card

theorem summary_totalScore (s : Suite) (thresholds : Thresholds) :
    (s.summary thresholds).totalScore = (s.cardsByCategory.map ScoreCard.score).sum := by
  simp only [summary, SuiteSummary.assess, SuiteSummary.totalScore_eq_sum, SuiteSummary.categories,
    CategorySummary.assess_totalScore, cardsByCategory, List.map_cons, List.map_nil, List.sum_cons,
    List.sum_nil, List.map_append, List.sum_append]
  omega

theorem sum_scores (s : Suite) :
    (s.cardsByCategory.map ScoreCard.score).sum =
      (s.features.map Feature.totalScore).sum + (s.definitions.map fun d => d.card.score).sum +
        (s.hooks.map fun h => h.card.score).sum := by
  have features : (s.features.map Feature.totalScore).sum =
      (s.features.map fun f => f.card.score).sum +
        (s.features.map fun f => (f.blocks.map fun b => b.card.score).sum).sum := by
    rw [funext Feature.totalScore_eq, List.sum_map_add]
  rw [features]
  simp only [cardsByCategory, List.map_append, List.sum_append, List.map_map, Function.comp_def,
    List.flatMap_def, List.map_flatten, List.sum_flatten]

theorem summary_merged_phrases (s : Suite) (thresholds : Thresholds) :
    (s.summary thresholds).merged.phrases =
      (s.cardsByCategory.flatMap fun c => c.violations.phrases).eraseDups := by
  let phrases (cards : List ScoreCard) : List Text := cards.flatMap fun c => c.violations.phrases
  have categories : (s.summary thresholds).merged.phrases =
      ([phrases (s.features.map Feature.card),
        phrases (s.features.flatMap fun f => f.blocks.map Scenario.card),
        phrases (s.definitions.map StepDefinition.card),
        phrases (s.hooks.map Hook.card)].flatMap List.eraseDups).eraseDups := by
    rw [SuiteSummary.merged, Histogram.phrases_foldl_merge]
    simp only [summary, SuiteSummary.assess, SuiteSummary.categories, List.map_cons, List.map_nil,
      List.flatMap_cons, List.flatMap_nil, CategorySummary.assess_improvements_phrases, phrases]
    rfl
  rw [categories, eraseDups_flatMap_eraseDups]
  simp only [phrases, cardsByCategory, List.flatten_cons, List.flatten_nil, List.append_nil,
    List.flatMap_append, List.append_assoc]

theorem summary_improvements_count (s : Suite) (thresholds : Thresholds) (phrase : Text) :
    (s.summary thresholds).improvements.count phrase =
      (s.cardsByCategory.map fun c => c.violations.count phrase).sum := by
  rw [SuiteSummary.improvements_count]
  simp only [Histogram.count_eq_weight, summary, SuiteSummary.assess, SuiteSummary.categories,
    cardsByCategory, CategorySummary.assess_improvements_weight, List.map_cons, List.map_nil, List.sum_cons,
    List.sum_nil, List.map_append, List.sum_append]
  omega

/-- If the scores of all cards fit a score together, a suite has a summary. Its score is that of all
features with their blocks, definitions and hooks. Its improvements count what the cards count; they
hold each phrase once, by falling count, and phrases of equal count in the order in which they are
first met on the cards. -/
theorem summary_conserves (s : Suite) (thresholds : Thresholds)
    (fits : (s.cardsByCategory.map ScoreCard.score).sum < 2 ^ 32) :
    ∃ summary, s.summary? thresholds = .ok summary ∧
      summary.totalScore = (s.features.map Feature.totalScore).sum +
        (s.definitions.map fun d => d.card.score).sum + (s.hooks.map fun h => h.card.score).sum ∧
      (∀ phrase, summary.improvements.count phrase =
        (s.cardsByCategory.map fun c => c.violations.count phrase).sum) ∧
      summary.improvements.phrases.Nodup ∧
      summary.improvements.entries.Pairwise (fun a b => b.2 ≤ a.2) ∧
      ∀ n, (summary.improvements.entries.filter fun e => e.2 = n).map Prod.fst =
        (s.cardsByCategory.flatMap fun c => c.violations.phrases).eraseDups.filter
          fun p => summary.improvements.count p = n := by
  have score := s.summary_totalScore thresholds
  have total : (s.summary thresholds).fits = true := by
    rw [SuiteSummary.fits, score, decide_eq_true_eq, maxScore]
    omega
  refine ⟨s.summary thresholds, ?_, ?_, ?_, ?_, ?_, ?_⟩
  · rw [summary?]
    exact if_pos total
  · rw [score, s.sum_scores]
  · exact s.summary_improvements_count thresholds
  · exact Histogram.nodup_phrases _
  · rw [SuiteSummary.improvements_entries]
    exact Histogram.byCount_pairwise _
  · intro n
    rw [SuiteSummary.improvements_ties, summary_merged_phrases]

def phraseCard (line score : Nat) (phrase : Text) (count : Nat) : ScoreCard :=
  { location := ⟨⟨"a"⟩, line⟩, score, violations := .ofList [(phrase, count)] }

/-- A feature with two scenarios, and a hook that repeats the phrase of the feature. -/
def tiedSuite : Suite :=
  { features :=
      [{ card := phraseCard 1 1 "First" 1
         scenarios :=
           [{ card := phraseCard 2 2 "Middle" 2, kind := .scenario },
            { card := phraseCard 3 3 "Last" 3, kind := .scenario }] }]
    hooks :=
      [{ card := phraseCard 4 1 "First" 1, kind := .before, filters := [], parameters := [], body := [] }] }

theorem summary_conserves_tied :
    ∃ summary, tiedSuite.summary? {} = .ok summary ∧ summary.totalScore = 7 ∧
      summary.improvements.count "First" = 2 ∧
      (summary.improvements.entries.filter fun e => e.2 = 2).map Prod.fst = ["First", "Middle"] := by
  obtain ⟨summary, given, score, count, -, -, order⟩ :=
    summary_conserves tiedSuite {} (by decide)
  refine ⟨summary, given, ?_, ?_, ?_⟩
  · rw [score]
    decide
  · rw [count]
    decide
  · rw [order]
    simp only [count]
    decide

end Suite

end SuiteAudit
