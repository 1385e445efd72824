import SuiteAudit.Proofs.StepFile.Masks

/-!
# Cuts

What the interpolations of a text are, said without a scanner: a group of braces is a text that closes
with its last character what it opens with the first (`IsGroup`), and a text is cut at the first mark
that a group follows, then what is left (`Cut.Of`). Every text has one cut (`Cut.exists_of`,
`Cut.Of.unique`), and it is the one that the text is split at (`Cut.Of.split_eq`). Masking writes tokens
into the cut (`Cut.Of.ofLine_eq`), and what is found in place of the tokens afterwards stands between the
stretches of the cut (`Cut.Of.replaceTokens_eq`).
-/

namespace SuiteAudit

/-! ## Groups -/

/-- Braces of which the first character opens one and the last closes it: there are as many closing
ones as opening ones in the whole, and fewer at every place before. -/
structure IsGroup (t : Text) : Prop where
  opens : t.head? = some '\x7b'
  closes : t.count '\x7b' = t.count '\x7d'
  inside : ∀ s, s <+: t → s ≠ [] → s ≠ t → s.count '\x7d' < s.count '\x7b'

/-- The text closes `depth` braces that are open before it, the outermost with its last character. -/
structure Closes (depth : Nat) (t : Text) : Prop where
  closes : depth + t.count '\x7b' = t.count '\x7d'
  inside : ∀ s, s <+: t → s ≠ t → s.count '\x7d' < depth + s.count '\x7b'

theorem isGroup_cons {t : Text} : IsGroup ('\x7b' :: t) ↔ Closes 1 t := by
  constructor
  · rintro ⟨-, closes, inside⟩
    refine ⟨by simp at closes; omega, fun s start proper => ?_⟩
    have deeper := inside ('\x7b' :: s) (List.cons_prefix_cons.mpr ⟨rfl, start⟩) (by simp) (by simpa)
    simp at deeper
    omega
  · rintro ⟨closes, inside⟩
    refine ⟨rfl, by simp; omega, fun s start filled proper => ?_⟩
    obtain rfl | ⟨tail, rfl, below⟩ := List.prefix_cons_iff.mp start
    · exact absurd rfl filled
    · have deeper := inside tail below (by simpa using proper)
      simp
      omega

theorem IsGroup.eq_cons {t : Text} (isGroup : IsGroup t) : ∃ inner, t = '\x7b' :: inner ∧ Closes 1 inner := by
  cases t with
  | nil => cases isGroup.opens
  | cons c inner =>
      obtain rfl : c = '\x7b' := Option.some.inj isGroup.opens
      exact ⟨inner, rfl, isGroup_cons.mp isGroup⟩

/-- One character moves the depth by the braces that it is. -/
theorem closes_cons {depth inside : Nat} {c : Char} {t : Text} (deep : 0 < depth)
    (step : inside + [c].count '\x7d' = depth + [c].count '\x7b') :
    Closes depth (c :: t) ↔ Closes inside t := by
  have counted (d : Char) (s : Text) : (c :: s).count d = [c].count d + s.count d := by
    rw [← List.count_append, List.singleton_append]
  constructor
  · rintro ⟨closes, within⟩
    rw [counted '\x7b' t, counted '\x7d' t] at closes
    refine ⟨by omega, fun s start proper => ?_⟩
    have deeper := within (c :: s) (List.cons_prefix_cons.mpr ⟨rfl, start⟩) (by simpa)
    rw [counted '\x7b' s, counted '\x7d' s] at deeper
    omega
  · rintro ⟨closes, within⟩
    refine ⟨by rw [counted '\x7b' t, counted '\x7d' t]; omega, fun s start proper => ?_⟩
    obtain rfl | ⟨tail, rfl, below⟩ := List.prefix_cons_iff.mp start
    · simpa using deep
    · have deeper := within tail below (by simpa using proper)
      rw [counted '\x7b' tail, counted '\x7d' tail]
      omega

theorem closes_last {t : Text} : Closes 1 ('\x7d' :: t) ↔ t = [] := by
  constructor
  · intro closes
    by_contra filled
    have deeper := closes.inside ['\x7d'] (by simp) (by simpa using Ne.symm filled)
    simp at deeper
  · rintro rfl
    refine ⟨rfl, fun s start proper => ?_⟩
    obtain rfl | ⟨tail, rfl, below⟩ := List.prefix_cons_iff.mp start
    · simp
    · rw [List.prefix_nil.mp below] at proper
      exact absurd rfl proper

namespace Piece

theorem depthAfter_eq_none {depth : Nat} {c : Char} (closed : depthAfter depth c = none) :
    c = '\x7d' ∧ depth ≤ 1 := by
  unfold depthAfter at closed
  split at closed
  case isTrue => cases closed
  case isFalse =>
    split at closed
    case isTrue brace =>
      split at closed
      case isTrue last => exact ⟨brace, last⟩
      case isFalse => cases closed
    case isFalse => cases closed

theorem depthAfter_eq_some {depth inside : Nat} {c : Char} (open_ : depthAfter depth c = some inside)
    (deep : 0 < depth) :
    0 < inside ∧ inside + [c].count '\x7d' = depth + [c].count '\x7b' := by
  unfold depthAfter at open_
  split at open_
  case isTrue brace =>
    cases open_
    simp [brace]
  case isFalse other =>
    split at open_
    case isTrue brace =>
      split at open_
      case isTrue => cases open_
      case isFalse nested =>
        cases open_
        simp only [brace, List.count_singleton_self, List.count_singleton]
        simp
        omega
    case isFalse plain =>
      cases open_
      simp [other, plain, deep]

theorem not_closes_nil {depth : Nat} (deep : 0 < depth) : ¬Closes depth [] := by
  rintro ⟨closes, -⟩
  simp at closes
  omega

/-- The search that counts braces finds the group exactly. -/
theorem balanced?_eq_some_iff {depth : Nat} (deep : 0 < depth) {t group rest : Text} :
    balanced? depth t = some (group, rest) ↔ t = group ++ rest ∧ Closes depth group := by
  induction t generalizing depth group with
  | nil =>
      constructor
      · intro found
        cases found
      · rintro ⟨whole, closes⟩
        rw [(List.append_eq_nil_iff.mp whole.symm).1] at closes
        exact absurd closes (not_closes_nil deep)
  | cons c t ih =>
      rw [balanced?_cons]
      cases after : depthAfter depth c with
      | none =>
          obtain ⟨rfl, last⟩ := depthAfter_eq_none after
          obtain rfl : depth = 1 := by omega
          constructor
          · intro found
            cases found
            exact ⟨rfl, closes_last.mpr rfl⟩
          · rintro ⟨whole, closes⟩
            cases group with
            | nil => exact absurd closes (not_closes_nil deep)
            | cons d group =>
                obtain ⟨rfl, rfl⟩ := List.cons.inj whole
                rw [closes_last.mp closes]
                rfl
      | some inside =>
          obtain ⟨deeper, step⟩ := depthAfter_eq_some after deep
          constructor
          · intro found
            obtain ⟨⟨inner, _⟩, below, same⟩ := Option.map_eq_some_iff.mp found
            cases same
            obtain ⟨rfl, closes⟩ := (ih deeper).mp below
            exact ⟨rfl, (closes_cons deep step).mpr closes⟩
          · rintro ⟨whole, closes⟩
            cases group with
            | nil => exact absurd closes (not_closes_nil deep)
            | cons d group =>
                obtain ⟨rfl, rfl⟩ := List.cons.inj whole
                have below := (ih deeper).mpr ⟨rfl, (closes_cons deep step).mp closes⟩
                simp only [below, Option.map_some]

end Piece

/-! ## Cuts of texts -/

/-- No group follows the first mark of the text. -/
def Unclosed (t : Text) : Prop :=
  ∀ before group rest, ¬['#', '\x7b'] <:+: before → IsGroup group → t ≠ before ++ '#' :: (group ++ rest)

theorem Unclosed.balanced?_eq_none {t before after : Text} (unclosed : Unclosed t)
    (found : Piece.firstMark? t = some (before, after)) : Piece.balanced? 1 after = none := by
  cases balance : Piece.balanced? 1 after with
  | none => rfl
  | some s =>
      obtain ⟨rfl, closes⟩ := (Piece.balanced?_eq_some_iff Nat.one_pos).mp balance
      exact absurd (Piece.firstMark?_eq_some found) (unclosed before ('\x7b' :: s.1) s.2
        (Piece.firstMark?_unmarked found) (isGroup_cons.mpr closes))

/-- A text taken apart: interpolations with the stretches before them, and a stretch behind the last. -/
inductive Cut
  | last (stretch : Text)
  | cons (stretch segment : Text) (rest : Cut)
deriving DecidableEq, Repr

namespace Cut

/-- The stretches outside of the interpolations, one more than there are interpolations. -/
def stretches : Cut → List Text
  | last s => [s]
  | cons s _ rest => s :: rest.stretches

/-- The interpolations. -/
def segments : Cut → List Text
  | last _ => []
  | cons _ g rest => g :: rest.segments

/-- The stretches with `f n` for the interpolation with the number `n`, where the first has the given
number. -/
def fill (f : Nat → Text) : (n : Nat) → Cut → Text
  | _, last s => s
  | n, cons s _ rest => s ++ (f n ++ rest.fill f (n + 1))

/-- The stretches with the interpolations between them. -/
def text : Cut → Text
  | last s => s
  | cons s g rest => s ++ (g ++ rest.text)

/-- Every stretch that is not empty and every interpolation, in their order. -/
def pieces : Cut → List Piece
  | last s => Piece.ofPlain s
  | cons s g rest => Piece.ofPlain s ++ .interpolation g :: rest.pieces

/-- How a text is cut: at its first mark if a group follows it, and so on behind the group. -/
inductive Of : Text → Cut → Prop
  | last {t : Text} (unclosed : Unclosed t) : Of t (last t)
  | cons {before group rest : Text} {cut : Cut} (first : ¬['#', '\x7b'] <:+: before)
      (isGroup : IsGroup group) (later : Of rest cut) :
      Of (before ++ '#' :: (group ++ rest)) (cons before ('#' :: group) cut)

theorem Of.text_eq {t : Text} {cut : Cut} (taken : Of t cut) : cut.text = t := by
  induction taken with
  | last => rfl
  | cons _ _ _ ih => simp [Cut.text, ih]

theorem Of.isGroup {t : Text} {cut : Cut} (taken : Of t cut) :
    ∀ s ∈ cut.segments, ∃ group, s = '#' :: group ∧ IsGroup group := by
  induction taken with
  | last => simp [segments]
  | @cons before group rest cut first isGroup later ih =>
      intro s member
      rcases List.mem_cons.mp member with rfl | below
      · exact ⟨group, rfl, isGroup⟩
      · exact ih s below

theorem Of.split_eq {t : Text} {cut : Cut} (taken : Of t cut) : Piece.split t = cut.pieces := by
  induction taken with
  | @last t unclosed =>
      rw [Piece.split_eq]
      cases found : Piece.firstMark? t with
      | none => rfl
      | some s =>
          have filled : t ≠ [] := by simp [Piece.firstMark?_eq_some found]
          simp [unclosed.balanced?_eq_none found, pieces, Piece.ofPlain, filled]
  | @cons before group rest cut first isGroup later ih =>
      obtain ⟨inner, rfl, closes⟩ := isGroup.eq_cons
      have balance : Piece.balanced? 1 (inner ++ rest) = some (inner, rest) :=
        (Piece.balanced?_eq_some_iff Nat.one_pos).mpr ⟨rfl, closes⟩
      rw [List.cons_append, Piece.split_closed first balance, ih]
      rfl

theorem exists_of (t : Text) : ∃ cut, Of t cut := by
  induction t using Piece.cutInduction with
  | unmarked t unmarked =>
      refine ⟨last t, .last fun before group rest _ isGroup same => unmarked ?_⟩
      obtain ⟨inner, rfl, -⟩ := isGroup.eq_cons
      exact ⟨before, inner ++ rest, by simp [same]⟩
  | unclosed before after unmarked unclosed =>
      refine ⟨last _, .last fun before' group rest first isGroup same => ?_⟩
      obtain ⟨inner, rfl, closes⟩ := isGroup.eq_cons
      -- Both are the first mark of the text, so the group follows it.
      have mark := Piece.firstMark?_append unmarked after
      rw [same, List.cons_append, Piece.firstMark?_append first] at mark
      cases mark
      rw [(Piece.balanced?_eq_some_iff Nat.one_pos).mpr ⟨rfl, closes⟩] at unclosed
      cases unclosed
  | closed before group rest unmarked closed ih =>
      obtain ⟨cut, taken⟩ := ih
      have isGroup : IsGroup ('\x7b' :: group) :=
        isGroup_cons.mpr ((Piece.balanced?_eq_some_iff Nat.one_pos).mp closed).2
      exact ⟨_, .cons unmarked isGroup taken⟩

theorem pieces_injective {a b : Cut} (same : a.pieces = b.pieces) : a = b := by
  induction a generalizing b with
  | last s =>
      cases b with
      | last s' => cases s <;> cases s' <;> simp_all [pieces, Piece.ofPlain]
      | cons s' g' rest' => cases s <;> cases s' <;> simp [pieces, Piece.ofPlain] at same
  | cons s g rest ih =>
      cases b with
      | last s' => cases s <;> cases s' <;> simp [pieces, Piece.ofPlain] at same
      | cons s' g' rest' =>
          have heads : s = s' ∧ g = g' ∧ rest.pieces = rest'.pieces := by
            cases s <;> cases s' <;> simp_all [pieces, Piece.ofPlain]
          rw [heads.1, heads.2.1, ih heads.2.2]

theorem Of.unique {t : Text} {a b : Cut} (left : Of t a) (right : Of t b) : a = b :=
  pieces_injective (left.split_eq.symm.trans right.split_eq)

/-! ## Masks -/

theorem refill_pieces (f : Nat → Text) (n : Nat) (cut : Cut) :
    Masked.refill f n cut.pieces = cut.fill f n := by
  induction cut generalizing n with
  | last s =>
      have plain := Masked.refill_ofPlain_append f n s []
      rwa [List.append_nil, Masked.refill, List.append_nil] at plain
  | cons s g rest ih => rw [pieces, Masked.refill_ofPlain_append, Masked.refill, ih, fill]

theorem textOf_pieces (n : Nat) (cut : Cut) :
    Masked.textOf n cut.pieces = cut.fill Masked.token n := by
  rw [← refill_pieces]
  generalize cut.pieces = ps
  induction ps generalizing n with
  | nil => rfl
  | cons p ps ih => cases p <;> simp only [Masked.textOf, Masked.refill, ih]

theorem segments_pieces (cut : Cut) :
    (cut.pieces.filter Piece.isInterpolation).map Piece.text = cut.segments := by
  have plain (s : Text) : (Piece.ofPlain s).filter Piece.isInterpolation = [] := by
    cases s <;> rfl
  induction cut with
  | last s => rw [pieces, plain, segments, List.map_nil]
  | cons s g rest ih =>
      rw [pieces, List.filter_append, plain, List.nil_append, segments, ← ih]
      rfl

theorem Of.ofLine_eq {t : Text} {cut : Cut} (taken : Of t cut) :
    Masked.ofLine t = ⟨cut.fill Masked.token 0, cut.segments⟩ := by
  simp only [Masked.ofLine, taken.split_eq, textOf_pieces, segments_pieces]

theorem Of.replaceTokens_eq {t : Text} {cut : Cut} (taken : Of t cut) (unmarked : Masked.mark ∉ t)
    (f : Text → Text) :
    Masked.replaceTokens f (Masked.ofLine t).text = cut.fill (fun n => f (Text.ofNat n)) 0 := by
  rw [Masked.ofLine_eq, Masked.replaceTokens_mask f unmarked, taken.split_eq, refill_pieces]

theorem saysSomething_pieces (cut : Cut) :
    Piece.saysSomething cut.pieces = !cut.stretches.all Text.allBlank := by
  induction cut with
  | last s => simp [pieces, stretches, Piece.saysSomething_ofPlain]
  | cons s g rest ih =>
      have behind : Piece.saysSomething (.interpolation g :: rest.pieces) =
          Piece.saysSomething rest.pieces := rfl
      rw [pieces, Piece.saysSomething_append, Piece.saysSomething_ofPlain, behind, ih, stretches,
        List.all_cons, Bool.not_and]

end Cut

/-- A line without the mark of tokens has one cut, and the tokens in its masked text are those of the
cut. With the interpolations in their places again the text is the line, and what is called is the line
without backslashes, if it has something else than blanks outside of its interpolations. -/
theorem Masked.finish_ofLine {line : Text} (unmarked : mark ∉ line) :
    ∃ cut : Cut, (∀ other, Cut.Of line other ↔ other = cut) ∧
      (∀ f, replaceTokens f (ofLine line).text = cut.fill (fun n => f (Text.ofNat n)) 0) ∧
      replaceTokens (ofLine line).segment (ofLine line).text = line ∧
      (ofLine line).finish (ofLine line).text =
        if ∀ s ∈ cut.stretches, Text.allBlank s = true then none
        else some (line.filter (· != '\\')) := by
  obtain ⟨cut, taken⟩ := Cut.exists_of line
  refine ⟨cut, fun other => ?_, taken.replaceTokens_eq unmarked, ?_, ?_⟩
  · exact ⟨fun taken' => taken'.unique taken, fun same => same ▸ taken⟩
  · exact replaceTokens_segment_mask unmarked List.prefix_rfl
  · rw [ofLine_eq, finish_mask unmarked List.prefix_rfl, taken.split_eq, Cut.saysSomething_pieces]
    simp only [← List.all_eq_true]
    cases cut.stretches.all Text.allBlank <;> rfl

/-- Eleven interpolations, so that a token has two digits, with digits next to the tokens, a backslash
and a mark that is never closed. -/
def digitsLine : Text :=
  '\\' :: '1' :: (List.replicate 11 "#\x7ba\x7d1".toList).flatten ++ "#\x7bb\x7b\x7d#\x7b".toList

theorem Masked.finish_ofLine_digits :
    mark ∉ digitsLine ∧ (ofLine digitsLine).segments.length = 11 ∧
      replaceTokens (ofLine digitsLine).segment (ofLine digitsLine).text = digitsLine ∧
      (ofLine digitsLine).finish (ofLine digitsLine).text = some digitsLine.tail := by
  have unmarked : mark ∉ digitsLine := by decide +kernel
  have count : (ofLine digitsLine).segments.length = 11 := by decide +kernel
  have called : ((ofLine digitsLine).finish (ofLine digitsLine).text).isSome = true := by
    decide +kernel
  have unescaped : digitsLine.filter (· != '\\') = digitsLine.tail := by decide +kernel
  obtain ⟨cut, -, -, restored, finish⟩ := finish_ofLine unmarked
  refine ⟨unmarked, count, restored, ?_⟩
  rw [finish] at called ⊢
  split at called
  case isTrue => cases called
  case isFalse filled => rw [if_neg filled, unescaped]

end SuiteAudit
