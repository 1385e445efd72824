import Mathlib.Data.List.Infix
import SuiteAudit.Proofs.StepFile.Interpolation
import SuiteAudit.Proofs.Text.Numbers
import SuiteAudit.Proofs.Text.Scan

/-!
# Masked texts

The masks of a text are found from its start, one interpolation after the other, so a text is taken
apart by its first mark (`Piece.cutInduction`): there is none, it is never closed, or it is closed and
the rest of the text is cut as a text of its own. Text without marks around a text stays as it is
(`Masked.mask_append`, `Masked.append_mask`), and what is called is the text that was masked, without
backslashes (`Masked.finish_mask`).
-/

namespace SuiteAudit

namespace Piece

/-! ## The first mark -/

theorem mark_infix_append {head t : Text} (absent : '#' ∉ head) :
    ['#', '\x7b'] <:+: head ++ t ↔ ['#', '\x7b'] <:+: t := by
  induction head with
  | nil => rfl
  | cons c head ih =>
      obtain ⟨other, absent⟩ := List.ne_and_not_mem_of_not_mem_cons absent
      rw [List.cons_append, List.infix_cons_iff, List.cons_prefix_cons, ih absent]
      simp [other]

theorem not_mark_infix_append {t tail : Text} (unmarked : ¬['#', '\x7b'] <:+: t)
    (absent : '#' ∉ tail) (outside : tail.head? ≠ some '\x7b') : ¬['#', '\x7b'] <:+: t ++ tail := by
  induction t with
  | nil => exact fun inside => absent (inside.subset List.mem_cons_self)
  | cons c t ih =>
      rw [List.infix_cons_iff, not_or] at unmarked
      rw [List.cons_append, List.infix_cons_iff, not_or]
      refine ⟨fun first => ?_, ih unmarked.2⟩
      obtain ⟨rfl, second⟩ := List.cons_prefix_cons.mp first
      cases t with
      | nil =>
          obtain ⟨rest, rfl⟩ := second
          exact outside rfl
      | cons d t =>
          obtain ⟨rfl, -⟩ := List.cons_prefix_cons.mp second
          exact unmarked.1 (by simp)

theorem firstMark?_append {before : Text} (unmarked : ¬['#', '\x7b'] <:+: before) (after : Text) :
    firstMark? (before ++ '#' :: '\x7b' :: after) = some (before, after) := by
  induction before with
  | nil => rfl
  | cons c before ih =>
      rw [List.infix_cons_iff, not_or] at unmarked
      have other (rest : Text) :
          c = '#' → before ++ '#' :: '\x7b' :: after = '\x7b' :: rest → False := by
        rintro rfl next
        cases before with
        | nil => cases next
        | cons d before =>
            obtain ⟨rfl, -⟩ := List.cons.inj next
            exact unmarked.1 (by simp)
      rw [List.cons_append, firstMark?.eq_3 _ _ other, ih unmarked.2]
      rfl

theorem firstMark?_unmarked {t before after : Text} (found : firstMark? t = some (before, after)) :
    ¬['#', '\x7b'] <:+: before := by
  fun_induction firstMark? t generalizing before with
  | case1 => cases found
  | case2 t =>
      cases found
      simp
  | case3 c t other ih =>
      obtain ⟨⟨head, rest⟩, below, same⟩ := Option.map_eq_some_iff.mp found
      cases same
      rw [List.infix_cons_iff, not_or]
      refine ⟨fun first => ?_, ih below⟩
      obtain ⟨rfl, tail, rfl⟩ := List.cons_prefix_cons.mp first
      exact other _ rfl (firstMark?_eq_some below)

theorem firstMark?_eq_none {t : Text} (missing : firstMark? t = none) : ¬['#', '\x7b'] <:+: t := by
  fun_induction firstMark? t with
  | case1 => simp
  | case2 t => cases missing
  | case3 c t other ih =>
      rw [List.infix_cons_iff, not_or]
      refine ⟨fun first => ?_, ih (Option.map_eq_none_iff.mp missing)⟩
      obtain ⟨rfl, tail, rfl⟩ := List.cons_prefix_cons.mp first
      exact other tail rfl rfl

theorem split_of_unmarked {t : Text} (unmarked : ¬['#', '\x7b'] <:+: t) : split t = ofPlain t := by
  rw [split_eq]
  cases found : firstMark? t with
  | none => rfl
  | some s =>
      have cut := firstMark?_eq_some found
      exact absurd ⟨s.1, s.2, by simp [cut]⟩ unmarked

theorem split_unclosed {before after : Text} (unmarked : ¬['#', '\x7b'] <:+: before)
    (unclosed : balanced? 1 after = none) :
    split (before ++ '#' :: '\x7b' :: after) = [plain (before ++ '#' :: '\x7b' :: after)] := by
  rw [split_eq, firstMark?_append unmarked]
  simp only [unclosed]

theorem split_closed {before group rest : Text} (unmarked : ¬['#', '\x7b'] <:+: before)
    (closed : balanced? 1 (group ++ rest) = some (group, rest)) :
    split (before ++ '#' :: '\x7b' :: (group ++ rest)) =
      ofPlain before ++ interpolation ('#' :: '\x7b' :: group) :: split rest := by
  rw [split_eq, firstMark?_append unmarked]
  simp only [closed]

/-- A text has no mark, or its first mark is never closed, or it is and the rest is a shorter text. -/
@[elab_as_elim]
theorem cutInduction {motive : Text → Prop}
    (unmarked : ∀ t, ¬['#', '\x7b'] <:+: t → motive t)
    (unclosed : ∀ before after, ¬['#', '\x7b'] <:+: before → balanced? 1 after = none →
      motive (before ++ '#' :: '\x7b' :: after))
    (closed : ∀ before group rest, ¬['#', '\x7b'] <:+: before →
      balanced? 1 (group ++ rest) = some (group, rest) → motive rest →
      motive (before ++ '#' :: '\x7b' :: (group ++ rest)))
    (t : Text) : motive t := by
  induction size : t.length using Nat.strongRecOn generalizing t with
  | ind n ih =>
      cases found : firstMark? t with
      | none => exact unmarked t (firstMark?_eq_none found)
      | some s =>
          obtain ⟨before, after⟩ := s
          obtain rfl := firstMark?_eq_some found
          cases balance : balanced? 1 after with
          | none => exact unclosed before after (firstMark?_unmarked found) balance
          | some s =>
              obtain ⟨group, rest⟩ := s
              obtain ⟨rfl, -⟩ := balanced?_eq_some balance
              refine closed before group rest (firstMark?_unmarked found) balance ?_
              refine ih rest.length ?_ rest rfl
              simp only [List.length_append, List.length_cons] at size
              omega

/-! ## Groups -/

/-- How deep a group is after a character, unless the character closes it. -/
def depthAfter (depth : Nat) (c : Char) : Option Nat :=
  if c = '\x7b' then some (depth + 1)
  else if c = '\x7d' then if depth ≤ 1 then none else some (depth - 1)
  else some depth

theorem balanced?_cons (depth : Nat) (c : Char) (t : Text) :
    balanced? depth (c :: t) = match depthAfter depth c with
      | none => some ([c], t)
      | some inside => (balanced? inside t).map fun s => (c :: s.1, s.2) := by
  simp only [balanced?, depthAfter]
  split
  case isTrue => rfl
  case isFalse =>
    split
    case isTrue => split <;> rfl
    case isFalse => rfl

/-- What follows a group does not matter for it. -/
theorem balanced?_group {depth : Nat} {t group rest : Text}
    (found : balanced? depth t = some (group, rest)) (tail : Text) :
    balanced? depth (group ++ tail) = some (group, tail) := by
  induction t generalizing depth group with
  | nil => cases found
  | cons c t ih =>
      rw [balanced?_cons] at found
      cases after : depthAfter depth c with
      | none =>
          simp only [after] at found
          cases found
          simp only [List.cons_append, List.nil_append, balanced?_cons, after]
      | some inside =>
          simp only [after] at found
          obtain ⟨⟨inner, _⟩, below, same⟩ := Option.map_eq_some_iff.mp found
          cases same
          simp only [List.cons_append, balanced?_cons, after, ih below, Option.map_some]

theorem balanced?_append_eq_none {depth : Nat} {t tail : Text} (open_ : '\x7d' ∉ tail)
    (unclosed : balanced? depth t = none) : balanced? depth (t ++ tail) = none := by
  induction t generalizing depth with
  | nil =>
      cases found : balanced? depth tail with
      | none => exact found
      | some s =>
          obtain ⟨rfl, inner, closed⟩ := balanced?_eq_some found
          exact absurd (by simp [closed]) open_
  | cons c t ih =>
      rw [balanced?_cons] at unclosed
      cases after : depthAfter depth c with
      | none => simp [after] at unclosed
      | some inside =>
          simp only [after, Option.map_eq_none_iff] at unclosed
          simp only [List.cons_append, balanced?_cons, after, ih unclosed, Option.map_none]

/-! ## Interpolations of a text -/

def groups (t : Text) : List Text := ((split t).filter isInterpolation).map text

/-- Every mark of the text belongs to an interpolation. -/
def MarksClose (t : Text) : Prop :=
  ∀ p ∈ split t, p.isInterpolation = false → ¬['#', '\x7b'] <:+: p.text

instance (t : Text) : Decidable (MarksClose t) :=
  inferInstanceAs (Decidable (∀ p ∈ split t, p.isInterpolation = false → ¬['#', '\x7b'] <:+: p.text))

theorem mem_ofPlain {p : Piece} {t : Text} (member : p ∈ ofPlain t) : p = plain t := by
  unfold ofPlain at member
  split at member
  · cases member
  · exact List.mem_singleton.mp member

theorem marksClose_of_unmarked {t : Text} (unmarked : ¬['#', '\x7b'] <:+: t) : MarksClose t := by
  intro p member _
  rw [split_of_unmarked unmarked] at member
  rwa [mem_ofPlain member]

theorem not_marksClose_unclosed {before after : Text} (unmarked : ¬['#', '\x7b'] <:+: before)
    (unclosed : balanced? 1 after = none) :
    ¬MarksClose (before ++ '#' :: '\x7b' :: after) := by
  intro all
  refine all (plain (before ++ '#' :: '\x7b' :: after)) ?_ rfl ⟨before, after, by simp [text]⟩
  rw [split_unclosed unmarked unclosed]
  exact List.mem_singleton_self _

theorem marksClose_closed {before group rest : Text} (unmarked : ¬['#', '\x7b'] <:+: before)
    (closed : balanced? 1 (group ++ rest) = some (group, rest)) :
    MarksClose (before ++ '#' :: '\x7b' :: (group ++ rest)) ↔ MarksClose rest := by
  unfold MarksClose
  rw [split_closed unmarked closed]
  constructor
  · intro all p member
    exact all p (List.mem_append_right _ (List.mem_cons_of_mem _ member))
  · intro all p member plain
    rcases List.mem_append.mp member with first | later
    · rwa [mem_ofPlain first]
    · rcases List.mem_cons.mp later with rfl | later
      · cases plain
      · exact all p later plain

theorem groups_unmarked {t : Text} (unmarked : ¬['#', '\x7b'] <:+: t) : groups t = [] := by
  rw [groups, split_of_unmarked unmarked, ofPlain]
  split <;> rfl

theorem groups_unclosed {before after : Text} (unmarked : ¬['#', '\x7b'] <:+: before)
    (unclosed : balanced? 1 after = none) : groups (before ++ '#' :: '\x7b' :: after) = [] := by
  rw [groups, split_unclosed unmarked unclosed]
  rfl

theorem groups_closed {before group rest : Text} (unmarked : ¬['#', '\x7b'] <:+: before)
    (closed : balanced? 1 (group ++ rest) = some (group, rest)) :
    groups (before ++ '#' :: '\x7b' :: (group ++ rest)) = ('#' :: '\x7b' :: group) :: groups rest := by
  rw [groups, split_closed unmarked closed, ofPlain]
  split <;> rfl

/-! ## Stretches -/

theorem flatMap_text_ofPlain (t : Text) : (ofPlain t).flatMap text = t := by
  cases t <;> simp [ofPlain, text]

/-- Nothing of a text is lost when it is cut. -/
theorem flatMap_text_split (t : Text) : (split t).flatMap text = t := by
  induction t using cutInduction with
  | unmarked t unmarked => rw [split_of_unmarked unmarked, flatMap_text_ofPlain]
  | unclosed before after unmarked unclosed => simp [split_unclosed unmarked unclosed, text]
  | closed before group rest unmarked closed ih =>
      rw [split_closed unmarked closed, List.flatMap_append, flatMap_text_ofPlain, List.flatMap_cons, ih]
      rfl

theorem saysSomething_append (ps qs : List Piece) :
    saysSomething (ps ++ qs) = (saysSomething ps || saysSomething qs) :=
  List.any_append

theorem saysSomething_ofPlain (t : Text) : saysSomething (ofPlain t) = !Text.allBlank t := by
  cases t <;> simp [saysSomething, ofPlain, isInterpolation, text, Text.allBlank]

end Piece

namespace Masked

open Piece

/-! ## Tokens for interpolations -/

/-- The text with tokens numbered from `n` for its interpolations. -/
def mask (n : Nat) (t : Text) : Text := textOf n (split t)

theorem ofLine_eq (line : Text) : ofLine line = ⟨mask 0 line, groups line⟩ := rfl

theorem textOf_ofPlain_append (n : Nat) (t : Text) (ps : List Piece) :
    textOf n (ofPlain t ++ ps) = t ++ textOf n ps := by
  cases t <;> rfl

theorem mask_unmarked {t : Text} (unmarked : ¬['#', '\x7b'] <:+: t) (n : Nat) : mask n t = t := by
  have plain := textOf_ofPlain_append n t []
  simpa [mask, split_of_unmarked unmarked, textOf] using plain

theorem mask_unclosed {before after : Text} (unmarked : ¬['#', '\x7b'] <:+: before)
    (unclosed : balanced? 1 after = none) (n : Nat) :
    mask n (before ++ '#' :: '\x7b' :: after) = before ++ '#' :: '\x7b' :: after := by
  simp [mask, split_unclosed unmarked unclosed, textOf]

theorem mask_closed {before group rest : Text} (unmarked : ¬['#', '\x7b'] <:+: before)
    (closed : balanced? 1 (group ++ rest) = some (group, rest)) (n : Nat) :
    mask n (before ++ '#' :: '\x7b' :: (group ++ rest)) = before ++ (token n ++ mask (n + 1) rest) := by
  rw [mask, split_closed unmarked closed, textOf_ofPlain_append]
  rfl

theorem mask_of_groups_eq_nil {t : Text} (none : groups t = []) (n : Nat) : mask n t = t := by
  induction t using cutInduction with
  | unmarked t unmarked => exact mask_unmarked unmarked n
  | unclosed before after unmarked unclosed => exact mask_unclosed unmarked unclosed n
  | closed before group rest unmarked closed _ =>
      rw [groups_closed unmarked closed] at none
      cases none

theorem append_mask {head : Text} (absent : '#' ∉ head) (n : Nat) (t : Text) :
    mask n (head ++ t) = head ++ mask n t ∧ groups (head ++ t) = groups t := by
  have unmarked_append {before : Text} (unmarked : ¬['#', '\x7b'] <:+: before) :
      ¬['#', '\x7b'] <:+: head ++ before := by
    rwa [mark_infix_append absent]
  induction t using cutInduction with
  | unmarked t unmarked =>
      have both := unmarked_append unmarked
      simp [mask_unmarked unmarked, mask_unmarked both, groups_unmarked unmarked, groups_unmarked both]
  | unclosed before after unmarked unclosed =>
      have both := unmarked_append unmarked
      rw [← List.append_assoc, mask_unclosed both unclosed, mask_unclosed unmarked unclosed,
        groups_unclosed both unclosed, groups_unclosed unmarked unclosed, List.append_assoc]
      exact ⟨rfl, rfl⟩
  | closed before group rest unmarked closed _ =>
      have both := unmarked_append unmarked
      rw [← List.append_assoc, mask_closed both closed, mask_closed unmarked closed,
        groups_closed both closed, groups_closed unmarked closed, List.append_assoc]
      exact ⟨rfl, rfl⟩

theorem mask_append {t tail : Text} (absent : '#' ∉ tail) (outside : tail.head? ≠ some '\x7b')
    (kept : '\x7d' ∉ tail ∨ MarksClose t) (n : Nat) :
    mask n (t ++ tail) = mask n t ++ tail ∧ groups (t ++ tail) = groups t := by
  induction t using cutInduction generalizing n with
  | unmarked t unmarked =>
      have both := not_mark_infix_append unmarked absent outside
      simp [mask_unmarked unmarked, mask_unmarked both, groups_unmarked unmarked, groups_unmarked both]
  | unclosed before after unmarked unclosed =>
      have still : balanced? 1 (after ++ tail) = none :=
        balanced?_append_eq_none
          (kept.resolve_right (not_marksClose_unclosed unmarked unclosed)) unclosed
      rw [List.append_assoc, List.cons_append, List.cons_append, mask_unclosed unmarked still,
        mask_unclosed unmarked unclosed, groups_unclosed unmarked still,
        groups_unclosed unmarked unclosed]
      simp
  | closed before group rest unmarked closed ih =>
      have still := balanced?_group closed (rest ++ tail)
      obtain ⟨masked, found⟩ := ih (kept.imp_right (marksClose_closed unmarked closed).mp) (n + 1)
      rw [List.append_assoc, List.cons_append, List.cons_append, List.append_assoc,
        mask_closed unmarked still, mask_closed unmarked closed, groups_closed unmarked still,
        groups_closed unmarked closed, masked, found]
      simp

theorem marksClose_append {t tail : Text} (absent : '#' ∉ tail) (outside : tail.head? ≠ some '\x7b')
    (open_ : '\x7d' ∉ tail) : MarksClose (t ++ tail) ↔ MarksClose t := by
  induction t using cutInduction with
  | unmarked t unmarked =>
      have both := not_mark_infix_append unmarked absent outside
      simp [marksClose_of_unmarked unmarked, marksClose_of_unmarked both]
  | unclosed before after unmarked unclosed =>
      have still := balanced?_append_eq_none open_ unclosed
      rw [List.append_assoc, List.cons_append, List.cons_append]
      simp [not_marksClose_unclosed unmarked unclosed, not_marksClose_unclosed unmarked still]
  | closed before group rest unmarked closed ih =>
      have still := balanced?_group closed (rest ++ tail)
      rw [List.append_assoc, List.cons_append, List.cons_append, List.append_assoc,
        marksClose_closed unmarked still, marksClose_closed unmarked closed, ih]

/-! ## Parts of masked texts -/

theorem groups_isPrefix (t tail : Text) : groups t <+: groups (t ++ tail) := by
  induction t using cutInduction with
  | unmarked t unmarked => simp [groups_unmarked unmarked]
  | unclosed before after unmarked unclosed => simp [groups_unclosed unmarked unclosed]
  | closed before group rest unmarked closed ih =>
      have still := balanced?_group closed (rest ++ tail)
      rw [List.append_assoc, List.cons_append, List.cons_append, List.append_assoc,
        groups_closed unmarked still, groups_closed unmarked closed]
      exact List.cons_prefix_cons.mpr ⟨rfl, ih⟩

theorem mask_of_isPrefix {t whole : Text} (part : t <+: whole) (none : groups whole = []) (n : Nat) :
    mask n t = t := by
  obtain ⟨tail, rfl⟩ := part
  exact mask_of_groups_eq_nil (List.prefix_nil.mp (none ▸ groups_isPrefix t tail)) n

theorem isPrefix_of_mask {n : Nat} {start t : Text} (unmarked : mark ∉ start)
    (masked : start <+: mask n t) : start <+: t := by
  induction t using cutInduction with
  | unmarked t plain => rwa [mask_unmarked plain] at masked
  | unclosed before after plain unclosed => rwa [mask_unclosed plain unclosed] at masked
  | closed before group rest plain closed _ =>
      rw [mask_closed plain closed] at masked
      obtain ⟨stop, cut⟩ := masked
      rcases List.append_eq_append_iff.mp cut with ⟨less, rfl, -⟩ | ⟨more, rfl, later⟩
      · exact ⟨less ++ '#' :: '\x7b' :: (group ++ rest), by simp⟩
      · -- Behind the plain text is a token, which begins as no unmarked text does.
        cases more with
        | nil => exact ⟨'#' :: '\x7b' :: (group ++ rest), by simp⟩
        | cons c more =>
            obtain ⟨rfl, -⟩ := List.cons.inj later
            exact absurd (by simp) unmarked

theorem isToken_of_mem_token {n : Nat} {c : Char} (member : c ∈ token n) :
    c = mark ∨ c.isDigit = true := by
  simp only [token, List.cons_append, List.mem_cons, List.mem_append, List.not_mem_nil,
    or_false] at member
  rcases member with rfl | digit | rfl
  · exact .inl rfl
  · exact .inr (Nat.isDigit_of_mem_toDigits (by decide) (by decide) digit)
  · exact .inl rfl

theorem not_mem_mask {c : Char} {t : Text} (absent : c ∉ t) (other : c ≠ mark)
    (noDigit : c.isDigit = false) (n : Nat) : c ∉ mask n t := by
  induction t using cutInduction generalizing n with
  | unmarked t unmarked => rwa [mask_unmarked unmarked]
  | unclosed before after unmarked unclosed => rwa [mask_unclosed unmarked unclosed]
  | closed before group rest unmarked closed ih =>
      simp only [List.mem_append, List.mem_cons, not_or] at absent
      obtain ⟨outside, -, -, -, later⟩ := absent
      have token : c ∉ token n := fun member => by
        rcases isToken_of_mem_token member with same | digit
        · exact other same
        · simp [digit] at noDigit
      simp only [mask_closed unmarked closed, List.mem_append, not_or]
      exact ⟨outside, token, ih later (n + 1)⟩

theorem exists_of_token_append {n : Nat} {t start stop : Text} (cut : token n ++ t = start ++ stop)
    (outside : ∀ c ∈ stop.head?, c ≠ mark ∧ c.isDigit = false) :
    ∃ more, start = token n ++ more ∧ t = more ++ stop := by
  rcases List.append_eq_append_iff.mp cut with whole | ⟨missing, broken, rfl⟩
  · exact whole
  · cases missing with
    | nil => exact ⟨[], by simpa using broken.symm, rfl⟩
    | cons c missing =>
        obtain ⟨other, noDigit⟩ := outside c rfl
        have member : c ∈ token n := by simp [broken]
        rcases isToken_of_mem_token member with rfl | digit
        · exact absurd rfl other
        · simp [digit] at noDigit

/-- A start of a masked text that does not end inside of a token is the mask of a start of the text. -/
theorem exists_of_mask_eq_append {n : Nat} {t start stop : Text} (cut : mask n t = start ++ stop)
    (outside : ∀ c ∈ stop.head?, c ≠ mark ∧ c.isDigit = false) :
    ∃ u v, t = u ++ v ∧ mask n u = start := by
  induction t using cutInduction generalizing n start with
  | unmarked t unmarked =>
      rw [mask_unmarked unmarked] at cut
      exact ⟨start, stop, cut, mask_of_isPrefix ⟨stop, cut.symm⟩ (groups_unmarked unmarked) n⟩
  | unclosed before after unmarked unclosed =>
      rw [mask_unclosed unmarked unclosed] at cut
      exact ⟨start, stop, cut,
        mask_of_isPrefix ⟨stop, cut.symm⟩ (groups_unclosed unmarked unclosed) n⟩
  | closed before group rest unmarked closed ih =>
      rw [mask_closed unmarked closed] at cut
      rcases List.append_eq_append_iff.mp cut with ⟨more, rfl, later⟩ | ⟨less, rfl, -⟩
      · obtain ⟨most, rfl, last⟩ := exists_of_token_append later outside
        obtain ⟨u, v, rfl, masked⟩ := ih last
        refine ⟨before ++ '#' :: '\x7b' :: (group ++ u), v, by simp, ?_⟩
        rw [mask_closed unmarked (balanced?_group closed u), masked]
      · exact ⟨start, less ++ '#' :: '\x7b' :: (group ++ rest), by simp,
          mask_of_isPrefix ⟨less, rfl⟩ (groups_unmarked unmarked) n⟩

/-! ## Restored texts -/

theorem token?_of_unmarked {t : Text} (unmarked : mark ∉ t) (after : Text) {u : Text}
    (filled : u ≠ []) (suffix : u <:+ t) : token? (u ++ after) = none := by
  obtain ⟨c, u, rfl⟩ := List.exists_cons_of_ne_nil filled
  have other : c ≠ mark := by
    rintro rfl
    exact unmarked (suffix.subset List.mem_cons_self)
  simp [token?, other]

theorem replaceTokens_of_unmarked (f : Text → Text) {t : Text} (unmarked : mark ∉ t) :
    replaceTokens f t = t := by
  refine Text.replaceEach_eq_self fun u filled suffix => ?_
  have none := token?_of_unmarked unmarked [] filled suffix
  rw [List.append_nil] at none
  rw [none, Option.map_none]

theorem replaceTokens_append (f : Text → Text) {head : Text} (unmarked : mark ∉ head) (t : Text) :
    replaceTokens f (head ++ t) = head ++ replaceTokens f t := by
  have apart : replaceTokens f (head ++ t) = replaceTokens f head ++ replaceTokens f t := by
    refine Text.replaceEach_append fun u filled suffix => ?_
    have none := token?_of_unmarked unmarked [] filled suffix
    rw [List.append_nil] at none
    simp [none, token?_of_unmarked unmarked t filled suffix]
  rw [apart, replaceTokens_of_unmarked f unmarked]

theorem token?_token (n : Nat) (t : Text) : token? (token n ++ t) = some (Text.ofNat n) := by
  have digits : ∀ c ∈ Text.ofNat n, Text.isDigit c = true := by
    intro c member
    have digit := Text.isDigit_of_mem_ofNat member
    have small : c.toNat < 0x80 := Nat.lt_of_le_of_lt (Char.isDigit_iff_toNat.mp digit).2 (by decide)
    rw [Text.isDigit, if_pos small, digit]
  have last : Text.isDigit mark = false := rfl
  have number : (Text.ofNat n ++ mark :: t).takeWhile Text.isDigit = Text.ofNat n := by
    simp [List.takeWhile_append_of_pos digits, last]
  have filled : (Text.ofNat n).isEmpty = false := by simp [Text.ofNat, Nat.toDigits_ne_nil]
  simp [token, token?, number, filled]

theorem replaceTokens_token (f : Text → Text) (n : Nat) (t : Text) :
    replaceTokens f (token n ++ t) = f (Text.ofNat n) ++ replaceTokens f t := by
  refine Text.replaceEach_found (by simp [token]) ?_
  rw [token?_token, Option.map_some]
  simp [token]

theorem segment_ofNat (m : Masked) (n : Nat) : m.segment (Text.ofNat n) = m.segments[n]?.getD [] := by
  have decimal : (Text.ofNat n).all Text.isDecimal = true :=
    List.all_eq_true.mpr fun c member => Text.isDigit_of_mem_ofNat member
  have filled : (Text.ofNat n).isEmpty = false := by simp [Text.ofNat, Nat.toDigits_ne_nil]
  have value : Text.digitsValue (Text.ofNat n) = n := by
    rw [Text.digitsValue, ← Nat.ofDigitChars_eq_foldl, Text.ofNat, Nat.ofDigitChars_ten_toDigits]
  simp [segment, Text.toNat?, decimal, filled, value]

/-- The stretches with `f n` for the interpolations, which are numbered from `n`. -/
def refill (f : Nat → Text) (n : Nat) : List Piece → Text
  | [] => []
  | .plain t :: ps => t ++ refill f n ps
  | .interpolation _ :: ps => f n ++ refill f (n + 1) ps

theorem refill_ofPlain_append (f : Nat → Text) (n : Nat) (t : Text) (ps : List Piece) :
    refill f n (ofPlain t ++ ps) = t ++ refill f n ps := by
  cases t <;> rfl

/-- The tokens that are found in a masked text are those that were put into it. -/
theorem replaceTokens_mask (f : Text → Text) {t : Text} (unmarked : mark ∉ t) (n : Nat) :
    replaceTokens f (mask n t) = refill (fun i => f (Text.ofNat i)) n (split t) := by
  induction t using cutInduction generalizing n with
  | unmarked t plain =>
      have whole := refill_ofPlain_append (fun i => f (Text.ofNat i)) n t []
      rw [List.append_nil, refill, List.append_nil] at whole
      rw [mask_unmarked plain, replaceTokens_of_unmarked _ unmarked, split_of_unmarked plain, whole]
  | unclosed before after plain unclosed =>
      rw [mask_unclosed plain unclosed, replaceTokens_of_unmarked _ unmarked,
        split_unclosed plain unclosed, refill, refill, List.append_nil]
  | closed before group rest plain closed ih =>
      simp only [List.mem_append, List.mem_cons, not_or] at unmarked
      obtain ⟨unmarkedBefore, -, -, -, unmarkedRest⟩ := unmarked
      rw [mask_closed plain closed, replaceTokens_append _ unmarkedBefore, replaceTokens_token,
        split_closed plain closed, refill_ofPlain_append, refill, ih unmarkedRest]

theorem allBlank_refill (n : Nat) (ps : List Piece) :
    Text.allBlank (refill (fun _ => []) n ps) = !saysSomething ps := by
  induction ps generalizing n with
  | nil => rfl
  | cons p ps ih =>
      cases p with
      | plain t =>
          have both : Text.allBlank (t ++ refill (fun _ => []) n ps) =
              (Text.allBlank t && Text.allBlank (refill (fun _ => []) n ps)) := List.all_append
          rw [refill, both, ih]
          simp [saysSomething, isInterpolation, Piece.text]
      | interpolation t => exact ih (n + 1)

theorem refill_segments {m : Masked} {n : Nat} {ps : List Piece}
    (known : (ps.filter isInterpolation).map Piece.text <+: m.segments.drop n) :
    refill (fun i => m.segment (Text.ofNat i)) n ps = ps.flatMap Piece.text := by
  induction ps generalizing n with
  | nil => rfl
  | cons p ps ih =>
      cases p with
      | plain t => exact congrArg (t ++ ·) (ih known)
      | interpolation t =>
          obtain ⟨more, segments⟩ := known
          have here : m.segments[n]? = some t := by
            rw [← List.head?_drop, ← segments]
            rfl
          have later : (ps.filter isInterpolation).map Piece.text <+: m.segments.drop (n + 1) := by
            rw [← List.tail_drop, ← segments]
            exact List.prefix_append _ _
          rw [refill, segment_ofNat, here, ih later]
          rfl

theorem allBlank_replaceTokens_mask {t : Text} (unmarked : mark ∉ t) (n : Nat) :
    Text.allBlank (replaceTokens (fun _ => []) (mask n t)) = !saysSomething (split t) := by
  rw [replaceTokens_mask _ unmarked, allBlank_refill]

theorem replaceTokens_segment_mask {m : Masked} {t : Text} (unmarked : mark ∉ t) {n : Nat}
    (known : groups t <+: m.segments.drop n) : replaceTokens m.segment (mask n t) = t := by
  rw [replaceTokens_mask _ unmarked, refill_segments known, flatMap_text_split]

theorem filter_unescaped {t : Text} (unescaped : '\\' ∉ t) : t.filter (· != '\\') = t := by
  refine List.filter_eq_self.mpr fun c member => ?_
  rw [bne_iff_ne]
  rintro rfl
  exact unescaped member

theorem finish_mask {m : Masked} {t : Text} (unmarked : mark ∉ t) (known : groups t <+: m.segments) :
    m.finish (mask 0 t) =
      if saysSomething (split t) then some (t.filter (· != '\\')) else none := by
  have restored := replaceTokens_segment_mask (n := 0) unmarked known
  rw [finish, allBlank_replaceTokens_mask unmarked, restored]
  cases saysSomething (split t) <;> rfl

end Masked

end SuiteAudit
