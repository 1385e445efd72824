import Mathlib.Data.List.Pairwise
import SuiteAudit.Rule.Check

/-!
# The order of steps

The steps of a scenario are out of order if a step stands before one that it should come after, next
to it or not. The check looks at the last ranked keyword only: as long as ranks never fall, it is the
highest so far (`outOfOrderFrom_eq_false`).
-/

namespace SuiteAudit

/-- The order of a scenario: context, action, outcome. Other keywords have no place of their own. -/
inductive StepKeyword.Precedes : StepKeyword → StepKeyword → Prop
  | given_action : Precedes .given .action
  | given_outcome : Precedes .given .outcome
  | action_outcome : Precedes .action .outcome

namespace Check

open StepKeyword (Precedes)

theorem precedes_iff {a b : StepKeyword} :
    Precedes a b ↔ ∃ r s, rank? a = some r ∧ rank? b = some s ∧ r < s := by
  constructor
  · rintro (_ | _ | _)
    · exact ⟨0, 1, rfl, rfl, by decide⟩
    · exact ⟨0, 2, rfl, rfl, by decide⟩
    · exact ⟨1, 2, rfl, rfl, by decide⟩
  · rintro ⟨r, s, first, second, less⟩
    cases a <;> cases first <;> cases b <;> cases second
    case given.refl.action.refl => exact .given_action
    case given.refl.outcome.refl => exact .given_outcome
    case action.refl.outcome.refl => exact .action_outcome
    all_goals exact absurd less (by decide)

/-- No rank falls behind the last one before it exactly if none falls behind any. -/
theorem outOfOrderFrom_eq_false {previous : Option Nat} {keywords : List StepKeyword} :
    outOfOrderFrom previous keywords = false ↔
      (previous.toList ++ keywords.filterMap rank?).Pairwise (· ≤ ·) := by
  induction keywords generalizing previous with
  | nil => cases previous <;> simp [outOfOrderFrom]
  | cons k keywords ih =>
      cases ranked : rank? k with
      | none =>
          rw [outOfOrderFrom, ranked, List.filterMap_cons_none ranked]
          exact ih
      | some r =>
          have rest := @ih (some r)
          rw [outOfOrderFrom, ranked, List.filterMap_cons_some ranked]
          cases previous with
          | none => simpa using rest
          | some p =>
              -- The rank `r` is between `p` and all that follow, so `p` need not be kept.
              have chain : (p :: r :: keywords.filterMap rank?).Pairwise (· ≤ ·) ↔
                  p ≤ r ∧ (r :: keywords.filterMap rank?).Pairwise (· ≤ ·) :=
                List.pairwise_cons_cons_iff_of_trans
              rw [Option.toList_some, List.singleton_append, chain]
              simpa using fun _ => rest

theorem outOfOrder_eq_false {keywords : List StepKeyword} :
    outOfOrder keywords = false ↔
      keywords.Pairwise fun earlier later => ¬ Precedes later earlier := by
  rw [outOfOrder, outOfOrderFrom_eq_false, Option.toList_none, List.nil_append,
    List.pairwise_filterMap]
  have same (earlier later : StepKeyword) :
      (∀ r, rank? earlier = some r → ∀ s, rank? later = some s → r ≤ s) ↔
        ¬ Precedes later earlier := by
    rw [precedes_iff]
    constructor
    · rintro rising ⟨s, r, second, first, less⟩
      exact absurd (rising r first s second) (Nat.not_le.mpr less)
    · intro none r first s second
      exact Nat.not_lt.mp fun less => none ⟨s, r, second, first, less⟩
  simp only [same]

/-- Steps are out of order exactly if some keyword, anywhere in the list, stands before one that
should come first. -/
theorem outOfOrder_iff_inverted (keywords : List StepKeyword) :
    outOfOrder keywords = true ↔
      ∃ (i j : Nat) (earlier later : StepKeyword), i < j ∧ keywords[i]? = some earlier ∧
        keywords[j]? = some later ∧ Precedes later earlier := by
  rw [← Bool.not_eq_false, outOfOrder_eq_false, List.pairwise_iff_getElem]
  constructor
  · intro inverted
    simp only [Classical.not_forall, Classical.not_not] at inverted
    obtain ⟨i, j, bound, bound', less, precedes⟩ := inverted
    exact ⟨i, j, _, _, less, List.getElem?_eq_getElem bound, List.getElem?_eq_getElem bound', precedes⟩
  · rintro ⟨i, j, earlier, later, less, first, second, precedes⟩ ordered
    obtain ⟨bound, rfl⟩ := List.getElem?_eq_some_iff.mp first
    obtain ⟨bound', rfl⟩ := List.getElem?_eq_some_iff.mp second
    exact ordered i j bound bound' less precedes

example : outOfOrder [.given, .action, .and, .star, .given, .outcome] = true := by decide

end Check

end SuiteAudit
