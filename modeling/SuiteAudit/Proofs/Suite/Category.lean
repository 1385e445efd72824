import SuiteAudit.Proofs.Suite.Conservation

/-!
# What a summary says of a category

A summary is made in one pass over the cards of a category. Its extremes are the first cards that no
other one beats, and all else are sums over the cards. `Describes` puts together what the summary
says in the end.
-/

namespace SuiteAudit

namespace CategorySummary

/-- What a summary says of the cards of a category. -/
structure Describes (s : CategorySummary) (threshold : Nat) (cards : List ScoreCard) : Prop where
  total : s.total = cards.length
  totalScore : s.totalScore = (cards.map ScoreCard.score).sum
  good : s.good = cards.countP fun c => c.score ≤ threshold
  good_add_bad : s.good + s.bad = s.total
  least : cards ≠ [] → ∃ c, IsFirst (· < ·) cards c ∧ s.minimum = c.score ∧
    s.least.map Extreme.location = some c.location
  greatest : cards ≠ [] → ∃ c, IsFirst (· > ·) cards c ∧ s.maximum = c.score ∧
    s.greatest.map Extreme.location = some c.location
  empty : cards = [] → s.minimum = 0 ∧ s.least = none ∧ s.maximum = 0 ∧ s.greatest = none
  /-- Phrases stand in the order in which the cards first show them. -/
  phrases : s.improvements.phrases = (cards.flatMap fun c => c.violations.phrases).eraseDups
  once : s.improvements.phrases.Nodup
  counts : ∀ phrase, s.improvements.count phrase = (cards.map fun c => c.violations.count phrase).sum

theorem assess_good_add_bad (threshold : Nat) (cards : List ScoreCard) :
    (assess threshold cards).good + (assess threshold cards).bad = (assess threshold cards).total := by
  simp only [assess, foldl_add_good, foldl_add_bad, foldl_add_total, Nat.zero_add]
  rw [List.length_eq_countP_add_countP (·.isGood threshold)]
  simp

theorem assess_improvements_count (threshold : Nat) (cards : List ScoreCard) (phrase : Text) :
    (assess threshold cards).improvements.count phrase =
      (cards.map fun c => c.violations.count phrase).sum := by
  rw [Histogram.count_eq_weight, assess_improvements_weight]
  simp only [Histogram.count_eq_weight]

/-- If the scores of the cards fit a score together, the category has a summary that fits, and it
describes them. -/
theorem assess_describes (threshold : Nat) (cards : List ScoreCard)
    (small : (cards.map ScoreCard.score).sum < 2 ^ 32) :
    (assess threshold cards).fits = true ∧ (assess threshold cards).Describes threshold cards := by
  refine ⟨?_, ?_⟩
  · rw [fits, assess_totalScore, decide_eq_true_eq, maxScore]
    omega
  constructor
  case total => rw [assess, foldl_add_total, Nat.zero_add]
  case totalScore => exact assess_totalScore threshold cards
  case good => rw [assess, foldl_add_good, Nat.zero_add]; rfl
  case good_add_bad => exact assess_good_add_bad threshold cards
  case least =>
    intro filled
    obtain ⟨c, first, least⟩ := foldl_keep (· < ·) filled
    rw [minimum, assess_least_eq, least]
    exact ⟨c, first, rfl, rfl⟩
  case greatest =>
    intro filled
    obtain ⟨c, first, greatest⟩ := foldl_keep (· > ·) filled
    rw [maximum, assess_greatest_eq, greatest]
    exact ⟨c, first, rfl, rfl⟩
  case empty =>
    rintro rfl
    exact ⟨rfl, rfl, rfl, rfl⟩
  case phrases => exact assess_improvements_phrases threshold cards
  case once => exact Histogram.nodup_phrases _
  case counts => exact assess_improvements_count threshold cards

/-- Two cards with the greatest score and two with the least. -/
def tiedCards : List ScoreCard :=
  [{ location := ⟨⟨"f.feature"⟩, 3⟩, score := 10, violations := .ofList [("a", 1)] },
   { location := ⟨⟨"f.feature"⟩, 7⟩ },
   { location := ⟨⟨"f.feature"⟩, 9⟩, score := 10, violations := .ofList [("b", 2), ("a", 3)] },
   { location := ⟨⟨"f.feature"⟩, 12⟩ }]

theorem assess_describes_tied :
    (tiedCards.map ScoreCard.score).sum < 2 ^ 32 ∧
      (assess 5 tiedCards).Describes 5 tiedCards ∧
      (assess 5 tiedCards).least = some ⟨0, ⟨⟨"f.feature"⟩, 7⟩⟩ ∧
      (assess 5 tiedCards).greatest = some ⟨10, ⟨⟨"f.feature"⟩, 3⟩⟩ ∧
      (assess 5 tiedCards).improvements.count "a" = 4 := by
  have small : (tiedCards.map ScoreCard.score).sum < 2 ^ 32 := by decide
  obtain ⟨-, described⟩ := assess_describes 5 tiedCards small
  exact ⟨small, described, by decide, by decide, by rw [described.counts]; decide⟩

end CategorySummary

end SuiteAudit
