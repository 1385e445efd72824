import SuiteAudit.Proofs.StepFile.Masks
import SuiteAudit.Proofs.Text.Layout

/-!
# Braces that close a literal

Whether the brace at the end of a line closes a literal is decided by the last mark on the line if the
line opens the literal, and by the masked line if it stands inside. The two agree unless the line ends
in an interpolation that holds another one: its brace is taken for that of the literal, since the last
mark is the inner one's (`closesLiteral_masked`).
-/

namespace SuiteAudit

open Text

/-! ## Groups inside of groups -/

namespace Piece

theorem depthAfter_pos {depth inside : Nat} {c : Char} (deep : 1 ≤ depth)
    (after : depthAfter depth c = some inside) : 1 ≤ inside := by
  unfold depthAfter at after
  grind

theorem depthAfter_isSome {depth : Nat} (deep : 1 < depth) (c : Char) :
    ∃ inside, depthAfter depth c = some inside := by
  refine Option.ne_none_iff_exists'.mp fun closed => ?_
  unfold depthAfter at closed
  grind

/-- A character that leaves the outer of two groups open closes the inner one or leaves it inside. -/
theorem depthAfter_inner {outer inner after : Nat} {c : Char} (below : inner < outer)
    (open_ : depthAfter outer c = some after) :
    depthAfter inner c = none ∨ ∃ inside, depthAfter inner c = some inside ∧ inside < after := by
  unfold depthAfter at *
  grind

/-- A group inside of another one is closed before the other one. -/
theorem balanced?_inner {outer inner : Nat} {t group rest : Text} (deep : 1 ≤ inner)
    (below : inner < outer) (found : balanced? outer t = some (group, rest)) :
    ∃ group' rest', balanced? inner t = some (group', rest') ∧ rest' ≠ [] := by
  induction t generalizing outer inner group with
  | nil => cases found
  | cons c t ih =>
      obtain ⟨inside, after⟩ := depthAfter_isSome (Nat.lt_of_le_of_lt deep below) c
      simp only [balanced?_cons, after] at found
      obtain ⟨⟨tail, _⟩, later, same⟩ := Option.map_eq_some_iff.mp found
      cases same
      rw [balanced?_cons]
      rcases depthAfter_inner below after with closed | ⟨depth, still, less⟩
      · refine ⟨[c], t, by rw [closed], ?_⟩
        rintro rfl
        cases later
      · obtain ⟨group', rest', first, filled⟩ := ih (depthAfter_pos deep still) less later
        exact ⟨c :: group', rest', by simp [still, first], filled⟩

theorem balanced?_last {depth : Nat} {before after group rest : Text} (deep : 1 ≤ depth)
    (found : balanced? depth (before ++ '#' :: '\x7b' :: after) = some (group, rest))
    (unmarked : ¬['#', '\x7b'] <:+: rest) :
    ∃ group' rest', balanced? 1 after = some (group', rest') ∧ rest' ≠ [] := by
  induction before generalizing depth group with
  | nil =>
      have opened : balanced? depth ('#' :: '\x7b' :: after) =
          (balanced? (depth + 1) after).map fun s => ('#' :: '\x7b' :: s.1, s.2) := by
        simp [balanced?, Function.comp_def]
      rw [List.nil_append, opened] at found
      obtain ⟨_, inside, -⟩ := Option.map_eq_some_iff.mp found
      exact balanced?_inner (Nat.le_refl 1) (Nat.lt_succ_of_le deep) inside
  | cons c before ih =>
      rw [List.cons_append, balanced?_cons] at found
      cases step : depthAfter depth c with
      | none =>
          simp only [step] at found
          cases found
          exact absurd ⟨before, after, by simp⟩ unmarked
      | some inside =>
          simp only [step] at found
          obtain ⟨_, later, same⟩ := Option.map_eq_some_iff.mp found
          cases same
          exact ih (depthAfter_pos deep step) later

/-! ## The end of a text -/

theorem split_eq_nil {t : Text} (none : split t = []) : t = [] := by
  induction t using cutInduction with
  | unmarked t unmarked =>
      rw [split_of_unmarked unmarked, ofPlain] at none
      split at none
      case isTrue empty => exact List.isEmpty_iff.mp empty
      case isFalse => cases none
  | unclosed before after unmarked unclosed =>
      rw [split_unclosed unmarked unclosed] at none
      cases none
  | closed before group rest unmarked closed _ =>
      simp [split_closed unmarked closed] at none

theorem getLast?_split_closed {before group rest : Text} (unmarked : ¬['#', '\x7b'] <:+: before)
    (closed : balanced? 1 (group ++ rest) = some (group, rest)) :
    (split (before ++ '#' :: '\x7b' :: (group ++ rest))).getLast? =
      if rest = [] then some (interpolation ('#' :: '\x7b' :: group)) else (split rest).getLast? := by
  rw [split_closed unmarked closed, List.getLast?_append_cons]
  split
  case isTrue empty =>
    subst empty
    rfl
  case isFalse filled =>
    exact List.getLast?_cons_of_ne_nil fun none => filled (split_eq_nil none)

theorem getLast?_split_unmarked {t : Text} (unmarked : ¬['#', '\x7b'] <:+: t) (g : Text) :
    (split t).getLast? ≠ some (interpolation g) := by
  rw [split_of_unmarked unmarked, ofPlain]
  split <;> simp

theorem getLast?_split_unclosed {before after : Text} (unmarked : ¬['#', '\x7b'] <:+: before)
    (unclosed : balanced? 1 after = none) (g : Text) :
    (split (before ++ '#' :: '\x7b' :: after)).getLast? ≠ some (interpolation g) := by
  simp [split_unclosed unmarked unclosed]

/-- The text ends where the group of its last mark does. -/
def EndsAtLastMark (t : Text) : Prop :=
  ∃ after, afterLastMark? t = some after ∧ balanced? 1 after = some (after, [])

theorem endsAtLastMark_append {t : Text} (marked : ['#', '\x7b'] <:+: t) (before : Text) :
    EndsAtLastMark (before ++ t) ↔ EndsAtLastMark t := by
  obtain ⟨after, found⟩ :=
    Option.ne_none_iff_exists'.mp fun none => afterLastMark?_eq_none.mp none marked
  simp only [EndsAtLastMark, afterLastMark?_append found before, found]

/-- Where no mark follows a group, the text ends at its last mark if it ends with the group and no
group is inside of it. -/
theorem endsAtLastMark_closed {group rest : Text} (before : Text)
    (closed : balanced? 1 (group ++ rest) = some (group, rest))
    (unmarked : ¬['#', '\x7b'] <:+: rest) :
    EndsAtLastMark (before ++ '#' :: '\x7b' :: (group ++ rest)) ↔
      rest = [] ∧ ¬['#', '\x7b'] <:+: group := by
  simp only [EndsAtLastMark, afterLastMark?_mark, Option.some.injEq, exists_eq_left']
  cases found : afterLastMark? (group ++ rest) with
  | none =>
      have plain : ¬['#', '\x7b'] <:+: group := fun inside =>
        afterLastMark?_eq_none.mp found (inside.trans (List.prefix_append group rest).isInfix)
      simp only [Option.getD_none, closed, Option.some.injEq, Prod.mk.injEq]
      constructor
      · exact fun same => ⟨same.2, plain⟩
      · rintro ⟨rfl, -⟩
        simp
  | some after =>
      obtain ⟨head, cut⟩ := afterLastMark?_eq_some found
      rw [cut] at closed
      obtain ⟨group', rest', first, filled⟩ := balanced?_last (Nat.le_refl 1) closed unmarked
      simp only [Option.getD_some, first, Option.some.injEq, Prod.mk.injEq]
      constructor
      · exact fun same => absurd same.2 filled
      · rintro ⟨rfl, plain⟩
        rw [List.append_nil] at cut
        exact absurd ⟨head, after, by simp [cut]⟩ plain

theorem endsAtLastMark_iff {t : Text} (closing : MarksClose t) :
    EndsAtLastMark t ↔ ∃ group,
      (split t).getLast? = some (interpolation ('#' :: '\x7b' :: group)) ∧
        ¬['#', '\x7b'] <:+: group := by
  induction t using cutInduction with
  | unmarked t unmarked =>
      simp [EndsAtLastMark, afterLastMark?_eq_none.mpr unmarked, getLast?_split_unmarked unmarked]
  | unclosed before after unmarked unclosed =>
      exact absurd closing (not_marksClose_unclosed unmarked unclosed)
  | closed before group rest unmarked closed ih =>
      rw [marksClose_closed unmarked closed] at closing
      rw [getLast?_split_closed unmarked closed]
      by_cases further : ['#', '\x7b'] <:+: rest
      · have filled : rest ≠ [] := by
          rintro rfl
          simp at further
        have whole := endsAtLastMark_append further (before ++ '#' :: '\x7b' :: group)
        rw [List.append_assoc, List.cons_append, List.cons_append] at whole
        rw [whole, if_neg filled, ih closing]
      · rw [endsAtLastMark_closed before closed further]
        by_cases empty : rest = []
        · simp [empty]
        · simp [empty, getLast?_split_unmarked further]

end Piece

namespace Masked

open Piece

/-- A masked text ends as the text does, unless the text ends in an interpolation. -/
theorem getLast?_mask (n : Nat) (t : Text) :
    ((∀ g, (split t).getLast? ≠ some (interpolation g)) ∧ (mask n t).getLast? = t.getLast?) ∨
      ((∃ group, (split t).getLast? = some (interpolation ('#' :: '\x7b' :: group))) ∧
        (mask n t).getLast? = some mark ∧ t.getLast? = some '\x7d') := by
  induction t using cutInduction generalizing n with
  | unmarked t unmarked =>
      exact .inl ⟨getLast?_split_unmarked unmarked, by rw [mask_unmarked unmarked]⟩
  | unclosed before after unmarked unclosed =>
      exact .inl ⟨getLast?_split_unclosed unmarked unclosed, by rw [mask_unclosed unmarked unclosed]⟩
  | closed before group rest unmarked closed ih =>
      rw [getLast?_split_closed unmarked closed, mask_closed unmarked closed]
      by_cases empty : rest = []
      · subst empty
        obtain ⟨-, inner, rfl⟩ := balanced?_eq_some closed
        refine .inr ⟨⟨_, if_pos rfl⟩, ?_, by simp [List.getLast?_cons]⟩
        simp [mask_unmarked, token, List.getLast?_cons]
      · obtain ⟨c, last⟩ :=
          Option.ne_none_iff_exists'.mp fun none => empty (List.getLast?_eq_none_iff.mp none)
        have text : (before ++ '#' :: '\x7b' :: (group ++ rest)).getLast? = rest.getLast? := by
          simp [List.getLast?_cons, last]
        have masked (d : Char) (found : (mask (n + 1) rest).getLast? = some d) :
            (before ++ (token n ++ mask (n + 1) rest)).getLast? = some d := by
          simp [found]
        rw [if_neg empty, text]
        refine (ih (n + 1)).imp (fun same => ⟨same.1, ?_⟩)
          fun same => ⟨same.1, masked _ same.2.1, same.2.2⟩
        rw [last, masked c (same.2.trans last)]

theorem mask_concat {c : Char} (outside : c ≠ '#' ∧ c ≠ '\x7b' ∧ c ≠ '\x7d') (n : Nat) (t : Text) :
    mask n (t ++ [c]) = mask n t ++ [c] := by
  obtain ⟨hash, opening, closing⟩ := outside
  exact (mask_append (by simpa using hash.symm) (by simpa using opening)
    (.inl (by simpa using closing.symm)) n).1

theorem plain_of_blank {c : Char} (blank : isBlank c = true) :
    c ≠ '#' ∧ c ≠ '\x7b' ∧ c ≠ '\x7d' := by
  refine ⟨?_, ?_, ?_⟩ <;> rintro rfl <;> cases blank

theorem mask_trimEnd (n : Nat) (t : Text) : mask n (trimEnd t) = trimEnd (mask n t) := by
  induction t using List.reverseRecOn with
  | nil => rfl
  | append_singleton t c ih =>
      cases blank : isBlank c with
      | true =>
          have shorter (s : Text) : trimEnd (s ++ [c]) = trimEnd s :=
            List.rdropWhile_concat_pos isBlank s c blank
          rw [mask_concat (plain_of_blank blank), shorter, shorter, ih]
      | false =>
          have whole : trimEnd (t ++ [c]) = t ++ [c] := trimEnd_eq_self (by simp [blank])
          have solid : (mask n (t ++ [c])).getLast?.any isBlank = false := by
            rcases getLast?_mask n (t ++ [c]) with ⟨-, same⟩ | ⟨-, same, -⟩
            · simp [same, blank]
            · rw [same]
              rfl
          rw [whole, trimEnd_eq_self solid]

theorem mask_trimStart (n : Nat) (t : Text) : mask n (trimStart t) = trimStart (mask n t) := by
  induction t with
  | nil => rfl
  | cons c t ih =>
      cases blank : isBlank c with
      | true =>
          have absent : '#' ∉ [c] := by simpa using (plain_of_blank blank).1.symm
          have masked : mask n (c :: t) = c :: mask n t := (append_mask absent n t).1
          simp only [masked, trimStart_cons, blank, if_true, ih]
      | false =>
          rw [trimStart_of_solid blank]
          cases masked : mask n (c :: t) with
          | nil => rfl
          | cons d rest =>
              -- A blank at the start of the masked text would be the first character of the text.
              have solid : isBlank d = false := by
                by_contra blank'
                rw [Bool.not_eq_false] at blank'
                have unmarked : mark ∉ [d] := by
                  rw [List.mem_singleton]
                  rintro rfl
                  cases blank'
                have start : [d] <+: c :: t := isPrefix_of_mask unmarked ⟨rest, masked.symm⟩
                obtain ⟨rfl, -⟩ := List.cons_prefix_cons.mp start
                rw [blank'] at blank
                cases blank
              rw [trimStart_of_solid solid]

theorem trim_mask {t : Text} (trimmed : trim t = t) (n : Nat) : trim (mask n t) = mask n t := by
  rw [trim, ← mask_trimStart, ← mask_trimEnd]
  exact congrArg (mask n) trimmed

theorem before?_mask {c : Char} (outside : c ≠ '#' ∧ c ≠ '\x7b' ∧ c ≠ '\x7d') (other : c ≠ mark)
    (n : Nat) (t : Text) : before? [c] (mask n t) = (before? [c] t).map (mask n) := by
  cases found : before? [c] t with
  | some rest =>
      rw [before?_eq_some.mp found, mask_concat outside]
      exact before?_eq_some.mpr rfl
  | none =>
      cases masked : before? [c] (mask n t) with
      | none => rfl
      | some rest =>
          have last : (mask n t).getLast? = some c := by simp [before?_eq_some.mp masked]
          rcases getLast?_mask n t with ⟨-, same⟩ | ⟨-, same, -⟩
          · obtain ⟨start, cut⟩ := List.getLast?_eq_some_iff.mp (same ▸ last)
            rw [before?_eq_some.mpr cut] at found
            cases found
          · exact absurd (Option.some.inj (last.symm.trans same)) other

theorem mask_dropClosingParen (n : Nat) (t : Text) :
    mask n (dropClosingParen t) = dropClosingParen (mask n t) := by
  have paren := before?_mask (c := ')') (by decide) (by decide) n (trimEnd t)
  simp only [dropClosingParen, ← mask_trimEnd]
  change _ = ((before? [')'] (mask n (trimEnd t))).map trimEnd).getD _
  rw [paren]
  change mask n (((before? [')'] (trimEnd t)).map trimEnd).getD _) = _
  cases before? [')'] (trimEnd t) with
  | none => rfl
  | some rest => exact mask_trimEnd n rest

end Masked

/-! ## Closing parentheses and braces -/

theorem closesLiteral_eq_true {line : Text} :
    closesLiteral line = true ↔ (dropClosingParen line).getLast? = some '\x7d' ∧
      ¬Piece.EndsAtLastMark (dropClosingParen line) := by
  simp only [closesLiteral, Bool.and_eq_true, decide_eq_true_eq, Piece.EndsAtLastMark]
  refine and_congr_right fun _ => ?_
  cases afterLastMark? (dropClosingParen line) with
  | none => simp
  | some after =>
      cases balance : Piece.balanced? 1 after with
      | none => simp [balance]
      | some s =>
          obtain ⟨group, rest⟩ := s
          have whole : after = group ++ rest := (Piece.balanced?_eq_some balance).1
          cases rest with
          | nil =>
              obtain rfl : after = group := by simpa using whole
              simp [balance]
          | cons c rest => simp [balance]

theorem exists_dropClosingParen_append (t : Text) :
    ∃ tail, t = dropClosingParen t ++ tail ∧ ∀ c ∈ tail, isBlank c = true ∨ c = ')' := by
  obtain ⟨blanks, split, blank⟩ := exists_trimEnd_append t
  simp only [dropClosingParen]
  cases found : before? ")" (trimEnd t) with
  | none => exact ⟨blanks, split, fun c member => .inl (blank c member)⟩
  | some body =>
      have closed : trimEnd t = body ++ [')'] := before?_eq_some.mp found
      obtain ⟨gap, inner, gapBlank⟩ := exists_trimEnd_append body
      refine ⟨gap ++ ')' :: blanks, ?_, fun c member => ?_⟩
      · rw [Option.map_some, Option.getD_some, ← List.append_assoc, ← inner, List.append_cons, ← closed]
        exact split
      · rcases List.mem_append.mp member with early | late
        · exact .inl (gapBlank c early)
        · rcases List.mem_cons.mp late with rfl | late
          · exact .inr rfl
          · exact .inl (blank c late)

theorem marksClose_dropClosingParen {t : Text} :
    Piece.MarksClose (dropClosingParen t) ↔ Piece.MarksClose t := by
  obtain ⟨tail, split, ending⟩ := exists_dropClosingParen_append t
  have absent {c : Char} (solid : isBlank c = false) (other : c ≠ ')') : c ∉ tail := by
    intro member
    rcases ending c member with blank | paren
    · simp [blank] at solid
    · exact other paren
  have outside : tail.head? ≠ some '\x7b' := fun first =>
    absent (c := '\x7b') rfl (by decide) (List.mem_of_head? first)
  have same := Masked.marksClose_append (t := dropClosingParen t) (absent rfl (by decide)) outside
    (absent rfl (by decide))
  rw [← split] at same
  exact same.symm

/-- Where every mark belongs to an interpolation, a brace closes a literal if it ends the masked line,
or the last interpolation on the line holds another one. -/
theorem closesLiteral_masked {line : Text} (closed : Piece.MarksClose line) :
    closesLiteral line = true ↔
      (dropClosingParen (Masked.ofLine line).text).getLast? = some '\x7d' ∨
        ∃ group, (Piece.split (dropClosingParen line)).getLast? =
          some (.interpolation ('#' :: '\x7b' :: group)) ∧ ['#', '\x7b'] <:+: group := by
  have masked : dropClosingParen (Masked.ofLine line).text = Masked.mask 0 (dropClosingParen line) :=
    (Masked.mask_dropClosingParen 0 line).symm
  rw [closesLiteral_eq_true, Piece.endsAtLastMark_iff (marksClose_dropClosingParen.mpr closed), masked]
  generalize dropClosingParen line = body
  rcases Masked.getLast?_mask 0 body with ⟨plain, same⟩ | ⟨⟨group, last⟩, token, brace⟩
  · simp [plain, same]
  · simp [last, token, brace, Masked.mark]

/-- Interpolations before and after a step, a closing brace and a parenthesis. -/
def completeLiteral : Text := "steps(%Q\x7bGiven #\x7ba\x7d has #\x7bb[\"\x7b\x7d\"]\x7d \x7d )"

theorem closesLiteral_masked_complete :
    Piece.MarksClose completeLiteral ∧
      (dropClosingParen (Masked.ofLine completeLiteral).text).getLast? = some '\x7d' ∧
      closesLiteral completeLiteral = true := by
  have closed : Piece.MarksClose completeLiteral := by decide +kernel
  have brace : (dropClosingParen (Masked.ofLine completeLiteral).text).getLast? = some '\x7d' := by
    decide +kernel
  exact ⟨closed, brace, (closesLiteral_masked closed).mpr (.inl brace)⟩

/-- A line that ends in an interpolation with another one inside, and so leaves its literal open. -/
def nestedOpening : Text := "steps %Q\x7bGiven I have #\x7ba #\x7bb\x7d\x7d"

/-- The line is read as a complete call, and the step below it is lost. -/
theorem closesLiteral_nested :
    Piece.MarksClose nestedOpening ∧ closesLiteral nestedOpening = true ∧
      (dropClosingParen (Masked.ofLine nestedOpening).text).getLast? = some Masked.mark ∧
      nestedCalls [nestedOpening, "Then it is stored \x7d"] =
        [(1, "I have #\x7ba #\x7bb\x7d\x7d".toList)] ∧
      nestedCalls ["steps %Q\x7bGiven I have #\x7ba\x7d", "Then it is stored \x7d"] =
        [(1, "I have #\x7ba\x7d".toList), (2, "it is stored".toList)] := by
  decide +kernel

end SuiteAudit
