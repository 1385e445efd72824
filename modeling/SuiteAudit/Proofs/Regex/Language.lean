import Mathlib.Data.List.Forall2
import SuiteAudit.Regex.Basic

/-!
# What a regular expression matches

`Matches r before m after` says that `r` matches `m` between the two texts around it. The places that are carried
through an expression are those where such a match ends (`reach_iff`), so an expression occurs in a text iff it
matches a part of it (`isMatch_iff`). A repetition is carried on until no place is new. Each round finds one, so
there are never more rounds than places (`closure_closed`).
-/

namespace SuiteAudit

theorem CharSet.mem_single {c d : Char} : (CharSet.single c).mem d = true ↔ d = c := by
  simp only [CharSet.single, CharSet.mem, Bool.and_eq_true, decide_eq_true_eq]
  constructor
  · rintro ⟨lower, upper⟩
    exact Char.le_antisymm upper lower
  · rintro rfl
    exact ⟨Char.le_refl d, Char.le_refl d⟩

namespace Regex

/-- The expression matches `m` where `before` stands in front of it and `after` behind it. -/
inductive Matches : Regex → (before m after : Text) → Prop
  | empty {before after : Text} : Matches .empty before [] after
  | char {s : CharSet} {c : Char} {before after : Text} (member : s.mem c = true) :
      Matches (.char s) before [c] after
  | place {a : Assertion} {before after : Text} (holds : a.holds before.getLast? after.head? = true) :
      Matches (.place a) before [] after
  | seq {r s : Regex} {before m n after : Text} (first : Matches r before m (n ++ after))
      (second : Matches s (before ++ m) n after) : Matches (.seq r s) before (m ++ n) after
  | left {r s : Regex} {before m after : Text} (first : Matches r before m after) :
      Matches (.alt r s) before m after
  | right {r s : Regex} {before m after : Text} (second : Matches s before m after) :
      Matches (.alt r s) before m after
  | stop {r : Regex} {before after : Text} : Matches (.star r) before [] after
  | again {r : Regex} {before m n after : Text} (first : Matches r before m (n ++ after))
      (rest : Matches (.star r) (before ++ m) n after) : Matches (.star r) before (m ++ n) after

theorem Matches.append_star {r : Regex} {before m n after : Text}
    (matched : Matches (.star r) before m (n ++ after)) (last : Matches r (before ++ m) n after) :
    Matches (.star r) before (m ++ n) after := by
  generalize whole : Regex.star r = e at matched
  generalize rest : n ++ after = tail at matched
  induction matched with
  | stop =>
      cases whole
      subst rest
      rw [List.append_nil] at last
      simpa using Matches.again (by simpa using last) .stop
  | @again r' before m₁ m₂ tail first _ _ ih =>
      cases whole
      subst rest
      rw [List.append_assoc]
      apply Matches.again
      · simpa using first
      · apply ih _ rfl rfl
        simpa using last
  | _ => cases whole

theorem matches_seq {r s : Regex} {before m after : Text} :
    Matches (.seq r s) before m after ↔
      ∃ m₁ m₂, m = m₁ ++ m₂ ∧ Matches r before m₁ (m₂ ++ after) ∧ Matches s (before ++ m₁) m₂ after := by
  constructor
  · rintro ⟨⟩
    exact ⟨_, _, rfl, ‹_›, ‹_›⟩
  · rintro ⟨m₁, m₂, rfl, first, second⟩
    exact .seq first second

theorem matches_seq_empty {r : Regex} {before m after : Text} :
    Matches (.seq r .empty) before m after ↔ Matches r before m after := by
  rw [matches_seq]
  constructor
  · rintro ⟨m₁, m₂, rfl, first, last⟩
    cases last
    simpa using first
  · intro matched
    exact ⟨m, [], by simp, matched, .empty⟩

theorem seqs_cons (r : Regex) (rs : List Regex) : seqs (r :: rs) = .seq r (seqs rs) := rfl

theorem matches_seqs_singleton {r : Regex} {before m after : Text} :
    Matches (seqs [r]) before m after ↔ Matches r before m after := matches_seq_empty

theorem matches_seqs_append {rs ss : List Regex} {before m after : Text} :
    Matches (seqs (rs ++ ss)) before m after ↔ Matches (.seq (seqs rs) (seqs ss)) before m after := by
  induction rs generalizing before m with
  | nil =>
      rw [matches_seq]
      constructor
      · intro matched
        exact ⟨[], m, rfl, .empty, by simpa using matched⟩
      · rintro ⟨m₁, m₂, rfl, first, second⟩
        cases first
        simpa using second
  | cons r rs ih =>
      rw [List.cons_append, seqs_cons, matches_seq]
      constructor
      · rintro ⟨m₁, _, rfl, first, rest⟩
        obtain ⟨m₂, m₃, rfl, second, third⟩ := matches_seq.mp (ih.mp rest)
        rw [← List.append_assoc]
        apply Matches.seq
        · apply Matches.seq _ second
          simpa using first
        · simpa using third
      · intro matched
        obtain ⟨_, m₃, rfl, first, third⟩ := matches_seq.mp matched
        obtain ⟨m₁, m₂, rfl, first, second⟩ := matches_seq.mp first
        refine ⟨m₁, m₂ ++ m₃, by simp, by simpa using first, ih.mpr (.seq second ?_)⟩
        simpa using third

/-! ## Sets of places -/

theorem length_either {p q : List Bool} (same : q.length = p.length) : (either p q).length = p.length := by
  simp [either, same]

theorem getElem?_either {p q : List Bool} (same : q.length = p.length) (i : Nat) :
    (either p q)[i]? = some true ↔ p[i]? = some true ∨ q[i]? = some true := by
  rw [either, List.getElem?_zipWith]
  by_cases inside : i < p.length
  · have inside' : i < q.length := same ▸ inside
    simp [inside, inside']
  · have outside : p.length ≤ i := Nat.le_of_not_lt inside
    have outside' : q.length ≤ i := same ▸ outside
    simp [outside, outside']

theorem count_either {p q : List Bool} (same : q.length = p.length) (differ : either p q ≠ p) :
    p.count true < (either p q).count true := by
  induction p generalizing q with
  | nil => simp [either] at differ
  | cons b p ih =>
      cases q with
      | nil => simp at same
      | cons c q =>
          have same' : q.length = p.length := by simpa using same
          have step : either (b :: p) (c :: q) = (b || c) :: either p q := rfl
          rw [step] at differ ⊢
          by_cases stable : either p q = p
          · -- The set grows at its first place.
            rw [stable] at differ ⊢
            cases b <;> cases c <;> simp_all
          · have tail := ih same' stable
            cases b <;> cases c <;> simp <;> omega

/-! ## Repetitions -/

section Closure

variable {f : List Bool → List Bool} {size : Nat} (keeps : ∀ p : List Bool, p.length = size → (f p).length = size)
include keeps

theorem length_closure (n : Nat) {p : List Bool} (length : p.length = size) : (closure f n p).length = size := by
  induction n generalizing p with
  | zero => exact length
  | succ n ih =>
      rw [closure]
      split
      · exact length
      · apply ih
        rw [length_either ((keeps p length).trans length.symm), length]

theorem subset_closure (n : Nat) {p : List Bool} (length : p.length = size) {i : Nat}
    (member : p[i]? = some true) : (closure f n p)[i]? = some true := by
  induction n generalizing p with
  | zero => exact member
  | succ n ih =>
      have same : (f p).length = p.length := (keeps p length).trans length.symm
      rw [closure]
      split
      · exact member
      · apply ih
        · rw [length_either same, length]
        · exact (getElem?_either same i).mpr (.inl member)

/-- What holds of all places in `p` and of all that `f` adds holds of all places found. -/
theorem closure_induction (n : Nat) {p : List Bool} (length : p.length = size) {P : Nat → Prop}
    (start : ∀ i, p[i]? = some true → P i)
    (step : ∀ q : List Bool, q.length = size → (∀ i, q[i]? = some true → P i) →
      ∀ i, (f q)[i]? = some true → P i) {i : Nat} (member : (closure f n p)[i]? = some true) : P i := by
  induction n generalizing p with
  | zero => exact start i member
  | succ n ih =>
      have same : (f p).length = p.length := (keeps p length).trans length.symm
      rw [closure] at member
      split at member
      · exact start i member
      · apply ih _ _ member
        · rw [length_either same, length]
        · intro j found
          rcases (getElem?_either same j).mp found with old | new
          · exact start j old
          · exact step p length start j new

/-- Each round but the last finds a place, so as many rounds as there are places left are enough. -/
theorem closure_closed (n : Nat) {p : List Bool} (length : p.length = size) (enough : size ≤ n + p.count true)
    {i : Nat} (member : (f (closure f n p))[i]? = some true) : (closure f n p)[i]? = some true := by
  induction n generalizing p with
  | zero =>
      have full : p.count true = p.length := by
        have := p.count_le_length (a := true)
        omega
      have all : ∀ b ∈ p, true = b := List.count_eq_length.mp full
      have inside : i < p.length := by
        obtain ⟨bound, -⟩ := List.getElem?_eq_some_iff.mp member
        rwa [closure, keeps p length, ← length] at bound
      rw [closure, List.getElem?_eq_getElem inside, ← all _ (List.getElem_mem inside)]
  | succ n ih =>
      have same : (f p).length = p.length := (keeps p length).trans length.symm
      rw [closure] at member ⊢
      split at member
      case isTrue stable =>
        rw [if_pos stable, ← stable]
        exact (getElem?_either same i).mpr (.inr member)
      case isFalse grown =>
        rw [if_neg grown]
        apply ih _ _ member
        · rw [length_either same, length]
        · have := count_either same grown
          omega

end Closure

/-! ## Places reached -/

theorem length_gaps (before : Option Char) (t : Text) : (gaps before t).length = t.length + 1 := by
  induction t generalizing before with
  | nil => rfl
  | cons c t ih => simp [gaps, ih]

theorem getElem?_gaps (first : Option Char) (before after : Text) :
    (gaps first (before ++ after))[before.length]? = some (before.getLast?.or first, after.head?) := by
  induction before generalizing first with
  | nil => cases after <;> rfl
  | cons c before ih =>
      rw [List.cons_append, gaps, List.length_cons, List.getElem?_cons_succ, ih, List.getLast?_cons]
      cases before.getLast? <;> rfl

theorem length_reach {t : Text} (r : Regex) {p : List Bool} (length : p.length = t.length + 1) :
    (reach t r p).length = t.length + 1 := by
  induction r generalizing p with
  | empty => exact length
  | char s => simp [reach, length]
  | place a => simp [reach, length, length_gaps]
  | seq r s ihr ihs => exact ihs (ihr length)
  | alt r s ihr ihs => rw [reach, length_either ((ihs length).trans (ihr length).symm), ihr length]
  | star r ih => exact length_closure (fun _ => ih) _ length

/-- A place is reached iff a match ends there that starts at a place in `p`. -/
theorem reach_iff {t : Text} (r : Regex) {p : List Bool} (length : p.length = t.length + 1) {before after : Text}
    (whole : t = before ++ after) :
    (reach t r p)[before.length]? = some true ↔
      ∃ start m, before = start ++ m ∧ p[start.length]? = some true ∧ Matches r start m after := by
  induction r generalizing p before after with
  | empty =>
      constructor
      · intro member
        exact ⟨before, [], by simp, member, .empty⟩
      · rintro ⟨start, m, rfl, member, matched⟩
        cases matched
        simpa [reach] using member
  | char s =>
      rcases List.eq_nil_or_concat before with rfl | ⟨start, c, last⟩
      · constructor
        · intro member
          simp [reach] at member
        · rintro ⟨start, m, none, -, matched⟩
          cases matched
          simp at none
      · rw [List.concat_eq_append] at last
        subst last
        have here : t[start.length]? = some c := by simp [whole]
        have inside : start.length < p.length := by
          simp only [length, whole, List.length_append, List.length_singleton]
          omega
        rw [reach, List.length_append, List.length_singleton, List.getElem?_cons_succ, List.getElem?_zipWith,
          here, List.getElem?_eq_getElem inside]
        simp only [Option.some.injEq, Bool.and_eq_true]
        constructor
        · rintro ⟨member, matched⟩
          exact ⟨start, [c], rfl, by rw [List.getElem?_eq_getElem inside, member], .char matched⟩
        · rintro ⟨start', m, same, member, matched⟩
          cases matched with
          | char matched =>
              obtain ⟨rfl, last⟩ := List.append_inj' same rfl
              obtain ⟨rfl, -⟩ := List.cons.inj last
              rw [List.getElem?_eq_getElem inside] at member
              exact ⟨Option.some.inj member, matched⟩
  | place a =>
      have inside : before.length < p.length := by rw [length, whole, List.length_append]; omega
      have here := getElem?_gaps none before after
      rw [reach, List.getElem?_zipWith, whole, here, List.getElem?_eq_getElem inside]
      simp only [Option.or_none, Option.some.injEq, Bool.and_eq_true]
      constructor
      · rintro ⟨member, holds⟩
        exact ⟨before, [], by simp, by rw [List.getElem?_eq_getElem inside, member], .place holds⟩
      · rintro ⟨start, m, rfl, member, matched⟩
        cases matched with
        | place holds =>
            simp only [List.append_nil] at inside holds ⊢
            rw [List.getElem?_eq_getElem inside] at member
            exact ⟨Option.some.inj member, holds⟩
  | seq r s ihr ihs =>
      rw [reach, ihs (length_reach r length) whole]
      constructor
      · rintro ⟨middle, n, rfl, member, second⟩
        have whole' : t = middle ++ (n ++ after) := by rw [whole, List.append_assoc]
        obtain ⟨start, m, rfl, member, first⟩ := (ihr length whole').mp member
        exact ⟨start, m ++ n, by simp, member, .seq first second⟩
      · rintro ⟨start, _, rfl, member, matched⟩
        cases matched with
        | @seq _ _ _ m n _ first second =>
            have whole' : t = (start ++ m) ++ (n ++ after) := by simp [whole]
            exact ⟨start ++ m, n, by simp, (ihr length whole').mpr ⟨start, m, rfl, member, first⟩, second⟩
  | alt r s ihr ihs =>
      rw [reach, getElem?_either ((length_reach s length).trans (length_reach r length).symm), ihr length whole,
        ihs length whole]
      constructor
      · rintro (⟨start, m, same, member, first⟩ | ⟨start, m, same, member, second⟩)
        · exact ⟨start, m, same, member, .left first⟩
        · exact ⟨start, m, same, member, .right second⟩
      · rintro ⟨start, m, same, member, matched⟩
        cases matched with
        | left first => exact .inl ⟨start, m, same, member, first⟩
        | right second => exact .inr ⟨start, m, same, member, second⟩
  | star r ih =>
      have keeps : ∀ q : List Bool, q.length = t.length + 1 → (reach t r q).length = t.length + 1 :=
        fun _ => length_reach r
      rw [reach]
      constructor
      · intro member
        -- A place that is found ends a repetition, and one more match makes it longer.
        let Ends (i : Nat) : Prop := ∀ before after, t = before ++ after → before.length = i →
          ∃ start m, before = start ++ m ∧ p[start.length]? = some true ∧ Matches (.star r) start m after
        have ends : Ends before.length := by
          apply closure_induction keeps _ length _ _ member
          · rintro i found before after - rfl
            exact ⟨before, [], by simp, found, .stop⟩
          · rintro q qlength known i found before after whole rfl
            obtain ⟨middle, n, rfl, member, last⟩ := (ih qlength whole).mp found
            have whole' : t = middle ++ (n ++ after) := by rw [whole, List.append_assoc]
            obtain ⟨start, m, rfl, member, repeated⟩ := known _ member middle _ whole' rfl
            exact ⟨start, m ++ n, by simp, member, repeated.append_star last⟩
        exact ends before after whole rfl
      · rintro ⟨start, m, rfl, member, matched⟩
        have found := subset_closure keeps p.length length member
        clear member
        generalize e : Regex.star r = e at matched
        induction matched with
        | stop => simpa using found
        | @again r' start m n after first rest _ ihrest =>
            cases e
            have whole' : t = (start ++ m) ++ (n ++ after) := by simp [whole]
            have next := (ih (length_closure keeps p.length length) whole').mpr ⟨start, m, rfl, found, first⟩
            have known := closure_closed keeps p.length length (by omega) next
            rw [← List.append_assoc]
            exact ihrest (by simp [whole]) known rfl
        | _ => cases e

/-- An expression occurs in a text iff it matches a part of it. -/
theorem isMatch_iff {r : Regex} {t : Text} :
    r.isMatch t = true ↔ ∃ before m after, t = before ++ (m ++ after) ∧ Matches r before m after := by
  have length : (List.replicate (t.length + 1) true).length = t.length + 1 := List.length_replicate
  have everywhere (before rest : Text) (whole : t = before ++ rest) :
      (List.replicate (t.length + 1) true)[before.length]? = some true := by
    have inside : before.length < t.length + 1 := by rw [whole, List.length_append]; omega
    simp [inside]
  rw [isMatch, List.any_eq_true]
  constructor
  · rintro ⟨b, member, rfl⟩
    obtain ⟨i, found⟩ := List.mem_iff_getElem?.mp member
    have inside : i < t.length + 1 := by
      obtain ⟨bound, -⟩ := List.getElem?_eq_some_iff.mp found
      rwa [length_reach r length] at bound
    have place : (t.take i).length = i := by simp; omega
    rw [← place] at found
    obtain ⟨before, m, same, -, matched⟩ := (reach_iff r length (List.take_append_drop i t).symm).mp found
    refine ⟨before, m, t.drop i, ?_, matched⟩
    rw [← List.append_assoc, ← same, List.take_append_drop]
  · rintro ⟨before, m, after, whole, matched⟩
    have whole' : t = (before ++ m) ++ after := by rw [whole, List.append_assoc]
    have found := (reach_iff r length whole').mpr ⟨before, m, rfl, everywhere before _ whole, matched⟩
    exact ⟨true, List.mem_of_getElem? found, rfl⟩

theorem isMatch_congr {r s : Regex}
    (same : ∀ before m after, Matches r before m after ↔ Matches s before m after) (t : Text) :
    r.isMatch t = true ↔ s.isMatch t = true := by
  simp only [isMatch_iff, same]

/-! ## Languages -/

/-- Wherever they stand, the expression matches the texts in `L` and no others. -/
def Denotes (r : Regex) (L : Text → Prop) : Prop := ∀ before m after, Matches r before m after ↔ L m

theorem denotes_empty : Denotes .empty (· = []) := by
  intro before m after
  constructor
  · rintro ⟨⟩
    rfl
  · rintro rfl
    exact .empty

theorem denotes_char (s : CharSet) : Denotes (.char s) fun m => ∃ c, m = [c] ∧ s.mem c = true := by
  intro before m after
  constructor
  · rintro ⟨⟩
    exact ⟨_, rfl, ‹_›⟩
  · rintro ⟨c, rfl, member⟩
    exact .char member

/-- A text of the first language and one of the second, one after the other. -/
def Followed (L K : Text → Prop) (m : Text) : Prop := ∃ m₁ m₂, m = m₁ ++ m₂ ∧ L m₁ ∧ K m₂

theorem Denotes.seq {r s : Regex} {L K : Text → Prop} (first : Denotes r L) (second : Denotes s K) :
    Denotes (.seq r s) (Followed L K) := by
  intro before m after
  constructor
  · rintro ⟨⟩
    rename_i m₁ m₂ left right
    exact ⟨m₁, m₂, rfl, (first _ _ _).mp left, (second _ _ _).mp right⟩
  · rintro ⟨m₁, m₂, rfl, left, right⟩
    exact .seq ((first _ _ _).mpr left) ((second _ _ _).mpr right)

theorem Denotes.congr {r : Regex} {L K : Text → Prop} (denotes : Denotes r L) (same : ∀ m, L m ↔ K m) :
    Denotes r K := fun before m after => (denotes before m after).trans (same m)

theorem denotes_singleton {r : Regex} {L : Text → Prop} : Denotes (seqs [r]) L ↔ Denotes r L := by
  simp only [Denotes, matches_seqs_singleton]

theorem Denotes.append {rs ss : List Regex} {L K : Text → Prop} (first : Denotes (seqs rs) L)
    (second : Denotes (seqs ss) K) : Denotes (seqs (rs ++ ss)) (Followed L K) :=
  fun before m after => matches_seqs_append.trans (first.seq second before m after)

theorem Denotes.alt {r s : Regex} {L K : Text → Prop} (first : Denotes r L) (second : Denotes s K) :
    Denotes (.alt r s) fun m => L m ∨ K m := by
  intro before m after
  constructor
  · rintro (left | right)
    · rename_i left
      exact .inl ((first _ _ _).mp left)
    · rename_i right
      exact .inr ((second _ _ _).mp right)
  · rintro (left | right)
    · exact .left ((first _ _ _).mpr left)
    · exact .right ((second _ _ _).mpr right)

theorem Denotes.opt {r : Regex} {L : Text → Prop} (denotes : Denotes r L) :
    Denotes (Regex.opt r) fun m => L m ∨ m = [] := denotes.alt denotes_empty

theorem denotes_star_char (s : CharSet) : Denotes (.star (.char s)) fun m => ∀ c ∈ m, s.mem c = true := by
  intro before m after
  constructor
  · intro matched
    generalize e : Regex.star (.char s) = e at matched
    induction matched with
    | stop => simp
    | again first _ _ ih =>
        cases e
        cases first with
        | char member => exact List.forall_mem_cons.mpr ⟨member, ih rfl⟩
    | _ => cases e
  · intro all
    induction m generalizing before with
    | nil => exact .stop
    | cons c m ih =>
        obtain ⟨member, rest⟩ := List.forall_mem_cons.mp all
        exact .again (m := [c]) (.char member) (ih _ rest)

theorem denotes_plus_char (s : CharSet) :
    Denotes (plus (.char s)) fun m => m ≠ [] ∧ ∀ c ∈ m, s.mem c = true := by
  refine ((denotes_char s).seq (denotes_star_char s)).congr fun m => ⟨?_, ?_⟩
  · rintro ⟨_, m, rfl, ⟨c, rfl, member⟩, rest⟩
    exact ⟨by simp, List.forall_mem_cons.mpr ⟨member, rest⟩⟩
  · rintro ⟨filled, all⟩
    obtain ⟨c, m, rfl⟩ := List.exists_cons_of_ne_nil filled
    obtain ⟨member, rest⟩ := List.forall_mem_cons.mp all
    exact ⟨[c], m, rfl, ⟨c, rfl, member⟩, rest⟩

theorem denotes_single (c : Char) : Denotes (.char (.single c)) (· = [c]) := by
  refine (denotes_char _).congr fun m => ?_
  simp only [CharSet.mem_single]
  constructor
  · rintro ⟨_, rfl, rfl⟩
    rfl
  · rintro rfl
    exact ⟨c, rfl, rfl⟩

/-- The texts in the languages of the members, one after the other. -/
def Joined {α : Type} (L : α → Text → Prop) (xs : List α) (m : Text) : Prop :=
  ∃ ms, List.Forall₂ L xs ms ∧ m = ms.flatten

theorem joined_nil {α : Type} {L : α → Text → Prop} {m : Text} : Joined L [] m ↔ m = [] := by
  constructor
  · rintro ⟨ms, none, rfl⟩
    cases none
    rfl
  · rintro rfl
    exact ⟨[], .nil, rfl⟩

theorem joined_cons {α : Type} {L : α → Text → Prop} {x : α} {xs : List α} {m : Text} :
    Joined L (x :: xs) m ↔ Followed (L x) (Joined L xs) m := by
  constructor
  · rintro ⟨_, each, rfl⟩
    cases each with
    | cons first rest => exact ⟨_, _, rfl, first, _, rest, rfl⟩
  · rintro ⟨m₁, _, rfl, first, ms, rest, rfl⟩
    exact ⟨m₁ :: ms, .cons first rest, rfl⟩

theorem joined_append {α : Type} {L : α → Text → Prop} {xs ys : List α} {m : Text} :
    Joined L (xs ++ ys) m ↔ Followed (Joined L xs) (Joined L ys) m := by
  induction xs generalizing m with
  | nil => simp [Followed, joined_nil]
  | cons x xs ih =>
      rw [List.cons_append, joined_cons]
      constructor
      · rintro ⟨m₁, m₂, rfl, first, rest⟩
        obtain ⟨n₁, n₂, rfl, second, third⟩ := ih.mp rest
        exact ⟨m₁ ++ n₁, n₂, by simp, joined_cons.mpr ⟨m₁, n₁, rfl, first, second⟩, third⟩
      · rintro ⟨_, n₂, rfl, both, third⟩
        obtain ⟨m₁, n₁, rfl, first, second⟩ := joined_cons.mp both
        exact ⟨m₁, n₁ ++ n₂, by simp, first, ih.mpr ⟨n₁, n₂, rfl, second, third⟩⟩

/-- Characters that stand for themselves are joined to nothing but their text. -/
theorem joined_map_iff {α : Type} {L : α → Text → Prop} {f : Char → α} (alone : ∀ c m, L (f c) m ↔ m = [c])
    {t m : Text} : Joined L (t.map f) m ↔ m = t := by
  induction t generalizing m with
  | nil => exact joined_nil
  | cons c t ih =>
      rw [List.map_cons, joined_cons]
      simp only [Followed, alone, ih]
      constructor
      · rintro ⟨_, _, rfl, rfl, rfl⟩
        rfl
      · rintro rfl
        exact ⟨[c], t, rfl, rfl, rfl⟩

theorem denotes_seqs {α : Type} {f : α → Regex} {L : α → Text → Prop} {xs : List α}
    (all : ∀ x ∈ xs, Denotes (f x) (L x)) : Denotes (seqs (xs.map f)) (Joined L xs) := by
  induction xs with
  | nil => exact denotes_empty.congr fun m => joined_nil.symm
  | cons x xs ih =>
      obtain ⟨head, tail⟩ := List.forall_mem_cons.mp all
      exact (head.seq (ih tail)).congr fun m => joined_cons.symm

theorem denotes_literal (t : Text) : Denotes (literal t) (· = t) := by
  refine (denotes_seqs fun c _ => denotes_single c).congr fun m => ?_
  have self : t.map id = t := List.map_id t
  nth_rewrite 1 [← self]
  exact joined_map_iff fun c m => Iff.rfl

theorem denotes_anyText : Denotes anyText ('\n' ∉ ·) := by
  refine (denotes_star_char _).congr fun m => ?_
  have other (c : Char) : CharSet.notLineFeed.mem c = true ↔ c ≠ '\n' := by
    rw [CharSet.notLineFeed, CharSet.mem, Bool.not_eq_true', ← Bool.not_eq_true, CharSet.mem_single]
  simp only [other]
  constructor
  · intro all member
    exact all _ member rfl
  · rintro absent c member rfl
    exact absent member

/-- An expression over the whole text matches the texts in its language. -/
theorem Denotes.isMatch_whole {r : Regex} {L : Text → Prop} (denotes : Denotes r L) (t : Text) :
    (whole r).isMatch t = true ↔ L t := by
  rw [isMatch_iff]
  constructor
  · rintro ⟨before, m, after, rfl, matched⟩
    cases matched with
    | seq start rest =>
        cases start with
        | place start =>
            cases rest with
            | seq inner stop =>
                cases stop with
                | place stop =>
                    obtain rfl : before = [] := by simpa [Assertion.holds] using start
                    obtain rfl : after = [] := by simpa [Assertion.holds] using stop
                    simpa using (denotes _ _ _).mp inner
  · intro member
    refine ⟨[], t, [], (List.append_nil t).symm, ?_⟩
    have inner : Matches (.seq r (.place .textEnd)) [] (t ++ []) [] :=
      .seq ((denotes _ _ _).mpr member) (.place rfl)
    rw [List.append_nil] at inner
    exact .seq (m := []) (.place rfl) inner

end Regex

end SuiteAudit
