import SuiteAudit.Proofs.Histogram
import SuiteAudit.Rule.Evaluator

/-!
# What fires

The violations of a node whose rules judge nodes of its kind fire, one after the other: each adds the
cost of its rule and one occurrence of its phrase (`apply_eq`). On an empty card the histogram then
counts the phrases that fired, in the order in which they fired first.
-/

namespace SuiteAudit

namespace Histogram

theorem weight_map_one (phrase : Text) (ps : List Text) :
    weight phrase (ps.map fun p => (p, 1)) = ps.count phrase := by
  induction ps with
  | nil => rfl
  | cons p ps ih =>
      rw [List.map_cons, weight_cons, ih, List.count_cons]
      by_cases same : p = phrase <;> simp [same, Nat.add_comm]

/-- The histogram of phrases that were seen one after the other. -/
def tally (ps : List Text) : Histogram := ofList (ps.map fun p => (p, 1))

theorem tally_count (ps : List Text) (phrase : Text) : (tally ps).count phrase = ps.count phrase := by
  rw [tally, count_ofList, weight_map_one]

theorem tally_phrases (ps : List Text) : (tally ps).phrases = ps.eraseDups := by
  rw [tally, phrases_ofList, List.map_map]
  exact congrArg List.eraseDups (List.map_id ps)

theorem tally_total (ps : List Text) : (tally ps).total = ps.length := by
  have ones : (ps.map fun p => (p, 1)).map Prod.snd = List.replicate ps.length 1 := by
    rw [List.map_map]
    exact List.map_const'
  rw [tally, ofList, total_addAll, ones]
  simp [total]

end Histogram

namespace Criteria

/-- The violations that fire on a node of the kind. -/
def firings (c : Criteria) (kind : NodeKind) (vs : List Violation) : List Violation :=
  vs.filter fun v => (c.table v.rule).appliesTo kind

/-- What a violation that fires says on a node of the kind. -/
def phrase (c : Criteria) (kind : NodeKind) (v : Violation) : Text :=
  (c.table v.rule).render kind v.detail

/-- What the violations that fire on a node of the kind say, in their order. -/
def phrases (c : Criteria) (kind : NodeKind) (vs : List Violation) : List Text :=
  (c.firings kind vs).map (c.phrase kind)

/-- What the violations that fire on a node of the kind cost. -/
def weights (c : Criteria) (kind : NodeKind) (vs : List Violation) : List Nat :=
  (c.firings kind vs).map fun v => (c.table v.rule).score

theorem apply_append (c : Criteria) (kind : NodeKind) (card : ScoreCard) (vs ws : List Violation) :
    c.apply kind card (vs ++ ws) = c.apply kind (c.apply kind card vs) ws :=
  List.foldl_append

theorem store_of_applies {c : Criteria} {kind : NodeKind} {v : Violation}
    (applies : (c.table v.rule).appliesTo kind = true) (card : ScoreCard) :
    c.store kind card v = card.store (c.phrase kind v) (c.table v.rule).score :=
  if_pos applies

theorem store_of_not_applies {c : Criteria} {kind : NodeKind} {v : Violation}
    (silent : (c.table v.rule).appliesTo kind = false) (card : ScoreCard) :
    c.store kind card v = card :=
  if_neg (by simp [silent])

theorem apply_eq (c : Criteria) (kind : NodeKind) (card : ScoreCard) (vs : List Violation) :
    c.apply kind card vs =
      { card with
        score := card.score + (c.weights kind vs).sum
        violations := card.violations.addAll ((c.phrases kind vs).map fun p => (p, 1)) } := by
  induction vs generalizing card with
  | nil => rfl
  | cons v vs ih =>
      have step : c.apply kind card (v :: vs) = c.apply kind (c.store kind card v) vs := rfl
      rw [step, ih]
      cases applies : (c.table v.rule).appliesTo kind with
      | true =>
          have fires : c.firings kind (v :: vs) = v :: c.firings kind vs :=
            List.filter_cons_of_pos applies
          simp only [store_of_applies applies, weights, phrases, fires, List.map_cons, List.sum_cons,
            ScoreCard.store, Nat.add_assoc]
          rfl
      | false =>
          have silent : c.firings kind (v :: vs) = c.firings kind vs :=
            List.filter_cons_of_neg (by simp [applies])
          simp only [store_of_not_applies applies, weights, phrases, silent]

theorem apply_empty (c : Criteria) (kind : NodeKind) (location : Location) (vs : List Violation) :
    c.apply kind { location } vs =
      { location, score := (c.weights kind vs).sum, violations := .tally (c.phrases kind vs) } := by
  rw [apply_eq, Nat.zero_add]
  rfl

end Criteria

end SuiteAudit
