import SuiteAudit.Proofs.StepFile.Masks
import SuiteAudit.Proofs.StepFile.Pattern

/-!
# What an interpolated step reaches

The pattern of an interpolated step matches the texts that the step can become: its interpolations are replaced by
texts without line feeds, and what stands around them is kept (`reachPattern?_replaced`). An interpolation goes from
its mark to the brace that closes it, and braces inside come in pairs (`Nested`).
-/

namespace SuiteAudit

open Regex

namespace Piece

/-- A text whose braces come in pairs. -/
inductive Nested : Text → Prop
  | nil : Nested []
  | char {c : Char} {t : Text} (plain : c ≠ '\x7b' ∧ c ≠ '\x7d') (rest : Nested t) : Nested (c :: t)
  | group {inner t : Text} (inside : Nested inner) (rest : Nested t) : Nested ('\x7b' :: (inner ++ '\x7d' :: t))

theorem nested_of_plain {t : Text} (plain : ∀ c ∈ t, c ≠ '\x7b' ∧ c ≠ '\x7d') : Nested t := by
  induction t with
  | nil => exact .nil
  | cons c t ih =>
      obtain ⟨first, rest⟩ := List.forall_mem_cons.mp plain
      exact .char first (ih rest)

theorem balanced?_nested {inner : Text} (nested : Nested inner) {depth : Nat} (deep : 1 ≤ depth) (t : Text) :
    balanced? depth (inner ++ t) = (balanced? depth t).map fun s => (inner ++ s.1, s.2) := by
  induction nested generalizing depth t with
  | nil => simp
  | @char c u plain _ ih =>
      rw [List.cons_append, balanced?, if_neg plain.1, if_neg plain.2, ih deep, Option.map_map]
      rfl
  | @group inner u _ _ ihInner ihRest =>
      -- The inner group leaves the outer one open, so its brace is never the last.
      have open_ : ¬depth + 1 ≤ 1 := by omega
      have closed (t : Text) : balanced? (depth + 1) ('\x7d' :: t) =
          (balanced? depth t).map fun s => ('\x7d' :: s.1, s.2) := by
        rw [balanced?, if_neg (by decide), if_pos rfl, if_neg open_]
        rfl
      rw [List.cons_append, balanced?, if_pos rfl, List.append_assoc, ihInner (Nat.le_succ_of_le deep),
        List.cons_append, closed, ihRest deep]
      simp [Function.comp_def]

theorem exists_nested {depth : Nat} {t : Text} (deep : 1 ≤ depth) (found : (balanced? depth t).isSome = true) :
    ∃ inner rest, Nested inner ∧ t = inner ++ '\x7d' :: rest := by
  induction size : t.length using Nat.strongRecOn generalizing depth t with
  | ind n ih =>
      cases t with
      | nil => cases found
      | cons c t =>
          have shorter : t.length < n := by
            rw [← size]
            exact Nat.lt_succ_self _
          rw [balanced?] at found
          split at found
          case isTrue brace =>
            subst brace
            rw [Option.isSome_map] at found
            -- First the inner group is closed, then the outer one.
            obtain ⟨inner, u, nested, rfl⟩ := ih _ shorter (Nat.le_succ_of_le deep) found rfl
            have below : (balanced? depth u).isSome = true := by
              rw [balanced?_nested nested (Nat.le_succ_of_le deep), Option.isSome_map, balanced?,
                if_neg (by decide), if_pos rfl, if_neg (by omega), Option.isSome_map] at found
              exact found
            have shorter' : u.length < n := by
              simp only [List.length_append, List.length_cons] at shorter
              omega
            obtain ⟨outer, rest, nested', rfl⟩ := ih _ shorter' deep below rfl
            exact ⟨_, rest, .group nested nested', by simp⟩
          case isFalse other =>
            split at found
            case isTrue brace =>
              subst brace
              exact ⟨[], t, .nil, rfl⟩
            case isFalse other' =>
              rw [Option.isSome_map] at found
              obtain ⟨inner, rest, nested, rfl⟩ := ih _ shorter deep found rfl
              exact ⟨c :: inner, rest, .char ⟨other, other'⟩ nested, rfl⟩

theorem balanced?_closed {inner : Text} (nested : Nested inner) (rest : Text) :
    balanced? 1 (inner ++ '\x7d' :: rest) = some (inner ++ ['\x7d'], rest) := by
  rw [balanced?_nested nested (Nat.le_refl 1)]
  rfl

/-! ## Replaced interpolations -/

/-- The first mark of the text is never closed, or there is none. -/
def Uninterpolated (t : Text) : Prop :=
  ∀ before inner rest, ¬['#', '\x7b'] <:+: before → t = before ++ '#' :: '\x7b' :: (inner ++ '\x7d' :: rest) →
    ¬Nested inner

/-- The second text is the first with every interpolation replaced by a text without line feeds. -/
inductive Replaced : Text → Text → Prop
  | last {t : Text} (uninterpolated : Uninterpolated t) : Replaced t t
  | next {before inner rest value below : Text} (unmarked : ¬['#', '\x7b'] <:+: before) (nested : Nested inner)
      (oneLine : '\n' ∉ value) (replaced : Replaced rest below) :
      Replaced (before ++ '#' :: '\x7b' :: (inner ++ '\x7d' :: rest)) (before ++ (value ++ below))

def StandsFor : Piece → Text → Prop
  | plain t => (· = t)
  | interpolation _ => ('\n' ∉ ·)

theorem joined_ofPlain {t m : Text} : Joined StandsFor (ofPlain t) m ↔ m = t := by
  unfold ofPlain
  split
  case isTrue empty =>
    rw [List.isEmpty_iff.mp empty]
    exact joined_nil
  case isFalse =>
    rw [joined_cons]
    simp [Followed, joined_nil, StandsFor]

theorem split_next {before inner : Text} (unmarked : ¬['#', '\x7b'] <:+: before) (nested : Nested inner)
    (rest : Text) :
    split (before ++ '#' :: '\x7b' :: (inner ++ '\x7d' :: rest)) =
      ofPlain before ++ interpolation ('#' :: '\x7b' :: (inner ++ ['\x7d'])) :: split rest := by
  have closed := balanced?_closed nested rest
  have whole : inner ++ '\x7d' :: rest = inner ++ ['\x7d'] ++ rest := by simp
  rw [whole] at closed ⊢
  exact split_closed unmarked closed

theorem uninterpolated_of_firstMark? {t : Text}
    (unclosed : ∀ before after, firstMark? t = some (before, after) → balanced? 1 after = none) :
    Uninterpolated t := by
  rintro before inner rest unmarked rfl nested
  have open_ := unclosed before _ (firstMark?_append unmarked _)
  rw [balanced?_closed nested] at open_
  cases open_

/-- A text has no interpolation, or it has a first one and the rest is a shorter text. -/
@[elab_as_elim]
theorem replacedInduction {motive : Text → Prop}
    (last : ∀ t, Uninterpolated t → split t = ofPlain t → motive t)
    (next : ∀ before inner rest, ¬['#', '\x7b'] <:+: before → Nested inner → motive rest →
      motive (before ++ '#' :: '\x7b' :: (inner ++ '\x7d' :: rest)))
    (t : Text) : motive t := by
  induction t using cutInduction with
  | unmarked t unmarked =>
      apply last t _ (split_of_unmarked unmarked)
      apply uninterpolated_of_firstMark?
      intro before after found
      obtain rfl := firstMark?_eq_some found
      exact absurd ⟨before, after, by simp⟩ unmarked
  | unclosed before after unmarked unclosed =>
      apply last
      · apply uninterpolated_of_firstMark?
        intro before' after' found
        rw [firstMark?_append unmarked] at found
        cases found
        exact unclosed
      · rw [split_unclosed unmarked unclosed]
        simp [ofPlain]
  | closed before group rest unmarked closed ih =>
      obtain ⟨inner, rest', nested, same⟩ := exists_nested (Nat.le_refl 1) (by rw [closed]; rfl)
      rw [same, balanced?_closed nested] at closed
      obtain ⟨-, rfl⟩ := Prod.mk.inj (Option.some.inj closed)
      rw [same]
      exact next before inner _ unmarked nested ih

theorem replaced_iff {t s : Text} : Replaced t s ↔ Joined StandsFor (split t) s := by
  constructor
  · intro replaced
    induction replaced with
    | @last t uninterpolated =>
        induction t using replacedInduction with
        | last t _ plain => rw [plain, joined_ofPlain]
        | next before inner rest unmarked nested => exact absurd nested (uninterpolated _ _ _ unmarked rfl)
    | @next before inner rest value below unmarked nested oneLine _ ih =>
        rw [split_next unmarked nested, joined_append]
        exact ⟨before, value ++ below, rfl, joined_ofPlain.mpr rfl, joined_cons.mpr ⟨value, below, rfl, oneLine, ih⟩⟩
  · intro joined
    induction t using replacedInduction generalizing s with
    | last t uninterpolated plain =>
        rw [plain, joined_ofPlain] at joined
        subst joined
        exact .last uninterpolated
    | next before inner rest unmarked nested ih =>
        rw [split_next unmarked nested, joined_append] at joined
        obtain ⟨_, _, rfl, same, joined⟩ := joined
        obtain ⟨value, below, rfl, oneLine, joined⟩ := joined_cons.mp joined
        obtain rfl := joined_ofPlain.mp same
        exact .next unmarked nested oneLine (ih joined)

theorem any_isInterpolation_split (t : Text) :
    (split t).any isInterpolation = false ↔ Uninterpolated t := by
  induction t using replacedInduction with
  | last t uninterpolated plain =>
      rw [plain, ofPlain]
      refine iff_of_true ?_ uninterpolated
      split <;> rfl
  | next before inner rest unmarked nested =>
      refine iff_of_false ?_ fun none => none _ _ _ unmarked rfl nested
      rw [split_next unmarked nested]
      simp [isInterpolation]

theorem Replaced.eq_of_uninterpolated {t s : Text} (replaced : Replaced t s) (plain : Uninterpolated t) : s = t := by
  cases replaced with
  | last => rfl
  | next unmarked nested => exact absurd nested (plain _ _ _ unmarked rfl)

theorem replaced_once (before value rest : Text) {inner : Text} (unmarked : ¬['#', '\x7b'] <:+: before)
    (nested : Nested inner) (oneLine : '\n' ∉ value) (last : (split rest).any isInterpolation = false) :
    Replaced (before ++ '#' :: '\x7b' :: (inner ++ '\x7d' :: rest)) (before ++ (value ++ rest)) :=
  .next unmarked nested oneLine (.last ((any_isInterpolation_split rest).mp last))

/-- An interpolation may stand for itself. -/
theorem replaced_self {t : Text} (oneLine : '\n' ∉ t) : Replaced t t := by
  induction t using replacedInduction with
  | last t uninterpolated => exact .last uninterpolated
  | next before inner rest unmarked nested ih =>
      have whole : before ++ '#' :: '\x7b' :: (inner ++ '\x7d' :: rest) =
          before ++ ('#' :: '\x7b' :: (inner ++ ['\x7d']) ++ rest) := by simp
      rw [whole, List.mem_append, List.mem_append, not_or, not_or] at oneLine
      nth_rewrite 2 [whole]
      exact .next unmarked nested oneLine.2.1 (ih oneLine.2.2)

end Piece

open Piece

theorem reachPattern?_eq_none_iff (step : Text) :
    reachPattern? step = none ↔ Uninterpolated (Line.stepText step) := by
  rw [← any_isInterpolation_split, reachPattern?]
  split
  case isTrue interpolated => simp [interpolated]
  case isFalse plain => simp [plain]

theorem decides_of_reachPattern? {step : Text} {p : Pattern} (found : reachPattern? step = some p) :
    p.Decides (Replaced (Line.stepText step)) := by
  rw [reachPattern?] at found
  split at found
  case isTrue =>
    cases found
    have means (q : Piece) (member : q ∈ Piece.split (Line.stepText step)) :
        (match q with
          | .plain t => Pattern.mk (Regex.escape t) (Regex.literal t)
          | .interpolation _ => ⟨".*", Regex.anyText⟩).Means q.StandsFor := by
      cases q with
      | plain t => exact Pattern.means_plain t
      | interpolation t => exact Pattern.means_dots
    exact (Pattern.decides_joined means).congr fun s => replaced_iff.symm
  case isFalse => cases found

/-- A step with interpolations has a pattern, which matches what they can make of the step, itself included. -/
theorem reachPattern?_replaced (step : Text) :
    (reachPattern? step = none ↔ Uninterpolated (Line.stepText step)) ∧
      ∀ p, reachPattern? step = some p → p.Decides (Replaced (Line.stepText step)) ∧
        ('\n' ∉ Line.stepText step → p.isMatch (Line.stepText step) = true) := by
  refine ⟨reachPattern?_eq_none_iff step, fun p found => ?_⟩
  have decides := decides_of_reachPattern? found
  exact ⟨decides, fun oneLine => (decides.isMatch_iff _).mpr (replaced_self oneLine)⟩

/-- Braces inside of an interpolation belong to it, and a mark that is never closed stands for itself. -/
def payment : Text := "I pay #\x7bsum.fetch(\x7b a: 1 \x7d)\x7d$ (#\x7btip"

theorem reachPattern?_replaced_payment :
    ∃ p, reachPattern? ("Then ".toList ++ payment) = some p ∧
      '\n' ∉ Line.stepText ("Then ".toList ++ payment) ∧ Line.stepText ("Then ".toList ++ payment) = payment ∧
      p.Decides (Replaced payment) ∧ p.isMatch payment = true := by
  have text : Line.stepText ("Then ".toList ++ payment) = payment := by decide +kernel
  have oneLine : '\n' ∉ Line.stepText ("Then ".toList ++ payment) := by decide +kernel
  have interpolated : (reachPattern? ("Then ".toList ++ payment)).isSome = true := by decide +kernel
  obtain ⟨p, found⟩ := Option.isSome_iff_exists.mp interpolated
  obtain ⟨decides, self⟩ := (reachPattern?_replaced _).2 p found
  exact ⟨p, found, oneLine, text, text ▸ decides, text ▸ self oneLine⟩

end SuiteAudit
