import SuiteAudit.Proofs.StepFile.Masks

/-!
# Escapes

Writing a text with backslashes, and taking them away again, goes character by character and leaves
braces alone. So the interpolations of a text stay where they are, as long as no mark comes up that was
none before (`Piece.split_flatMap`).
-/

namespace SuiteAudit

open Text

namespace Piece

/-- A way to write characters that leaves marks and braces as they are. -/
structure KeepsBraces (write : Char → Text) : Prop where
  hash : write '#' = ['#']
  opening : write '\x7b' = ['\x7b']
  closing : write '\x7d' = ['\x7d']
  other : ∀ c, c ≠ '\x7b' → c ≠ '\x7d' → '\x7b' ∉ write c ∧ '\x7d' ∉ write c

/-- The stretch written anew, unless nothing is left of it. -/
def rewritten (f : Text → Text) : Piece → List Piece
  | plain t => ofPlain (f t)
  | interpolation t => [interpolation (f t)]

variable {write : Char → Text}

theorem balanced?_append_plain {head : Text} (unopened : '\x7b' ∉ head) (unclosed : '\x7d' ∉ head)
    (depth : Nat) (t : Text) :
    balanced? depth (head ++ t) = (balanced? depth t).map fun s => (head ++ s.1, s.2) := by
  induction head with
  | nil => simp
  | cons c head ih =>
      obtain ⟨opening, unopened⟩ := List.ne_and_not_mem_of_not_mem_cons unopened
      obtain ⟨closing, unclosed⟩ := List.ne_and_not_mem_of_not_mem_cons unclosed
      have same : depthAfter depth c = some depth := by
        simp [depthAfter, Ne.symm opening, Ne.symm closing]
      simp [balanced?_cons, same, ih unopened unclosed, Function.comp_def]

theorem balanced?_flatMap (keeps : KeepsBraces write) (depth : Nat) (t : Text) :
    balanced? depth (t.flatMap write) =
      (balanced? depth t).map fun s => (s.1.flatMap write, s.2.flatMap write) := by
  induction t generalizing depth with
  | nil => rfl
  | cons c t ih =>
      by_cases brace : c = '\x7b' ∨ c = '\x7d'
      · have same : write c = [c] := by
          rcases brace with rfl | rfl
          · exact keeps.opening
          · exact keeps.closing
        rw [List.flatMap_cons, same, List.singleton_append, balanced?_cons, balanced?_cons]
        cases depthAfter depth c with
        | none => simp [same]
        | some inside => simp [ih, same, Function.comp_def]
      · obtain ⟨opening, closing⟩ := not_or.mp brace
        obtain ⟨unopened, unclosed⟩ := keeps.other c opening closing
        have same : depthAfter depth c = some depth := by simp [depthAfter, opening, closing]
        rw [List.flatMap_cons, balanced?_append_plain unopened unclosed, balanced?_cons, ih]
        simp [same, Function.comp_def]

theorem flatMap_rewritten_ofPlain (f : Text → Text) (empty : f [] = []) (t : Text) :
    (ofPlain t).flatMap (rewritten f) = ofPlain (f t) := by
  cases t with
  | nil => simp [ofPlain, empty]
  | cons c t => simp [ofPlain, rewritten]

/-- The stretches of a text that is written anew are its stretches, each written anew. -/
theorem split_flatMap (keeps : KeepsBraces write) {t : Text}
    (unmarked : ∀ s, s <:+: t → ¬['#', '\x7b'] <:+: s → ¬['#', '\x7b'] <:+: s.flatMap write) :
    split (t.flatMap write) = (split t).flatMap (rewritten (·.flatMap write)) := by
  have mark (after : Text) : ('#' :: '\x7b' :: after).flatMap write =
      '#' :: '\x7b' :: after.flatMap write := by
    simp [keeps.hash, keeps.opening]
  induction t using cutInduction with
  | unmarked t plain =>
      rw [split_of_unmarked plain, split_of_unmarked (unmarked t List.infix_rfl plain),
        flatMap_rewritten_ofPlain _ rfl]
  | unclosed before after plain unclosed =>
      have start := unmarked before (List.prefix_append _ _).isInfix plain
      have still : balanced? 1 (after.flatMap write) = none := by
        rw [balanced?_flatMap keeps, unclosed]
        rfl
      rw [split_unclosed plain unclosed, List.flatMap_append, mark, split_unclosed start still]
      simp [rewritten, ofPlain, keeps.hash, keeps.opening]
  | closed before group rest plain closed ih =>
      have start := unmarked before (List.prefix_append _ _).isInfix plain
      have still : balanced? 1 (group.flatMap write ++ rest.flatMap write) =
          some (group.flatMap write, rest.flatMap write) := by
        rw [← List.flatMap_append, balanced?_flatMap keeps, closed]
        rfl
      have later := ih fun s inside => unmarked s (inside.trans ?_)
      · rw [split_closed plain closed, List.flatMap_append, mark, List.flatMap_append,
          split_closed start still, later, List.flatMap_append, flatMap_rewritten_ofPlain _ rfl]
        simp [rewritten, keeps.hash, keeps.opening]
      · exact ⟨before ++ '#' :: '\x7b' :: group, [], by simp⟩

theorem saysSomething_rewritten (f : Text → Text) (ps : List Piece) :
    saysSomething (ps.flatMap (rewritten f)) =
      ps.any fun p => !p.isInterpolation && !allBlank (f p.text) := by
  induction ps with
  | nil => rfl
  | cons p ps ih =>
      rw [List.flatMap_cons, saysSomething_append, ih, List.any_cons]
      cases p with
      | plain t => rw [rewritten, saysSomething_ofPlain]; rfl
      | interpolation t => rfl

end Piece

namespace Masked

open Piece

variable {write : Char → Text}

theorem flatMap_token (tokens : ∀ c, c = mark ∨ c.isDigit = true → write c = [c]) (n : Nat) :
    (token n).flatMap write = token n := by
  have each : ∀ c ∈ token n, write c = [c] := fun c member => tokens c (isToken_of_mem_token member)
  rw [List.flatMap_congr each, List.flatMap_singleton']

theorem mask_flatMap (keeps : KeepsBraces write) {t : Text}
    (unmarked : ∀ s, s <:+: t → ¬['#', '\x7b'] <:+: s → ¬['#', '\x7b'] <:+: s.flatMap write)
    (tokens : ∀ c, c = mark ∨ c.isDigit = true → write c = [c]) (n : Nat) :
    mask n (t.flatMap write) = (mask n t).flatMap write := by
  rw [mask, split_flatMap keeps unmarked, mask]
  induction split t generalizing n with
  | nil => rfl
  | cons p ps ih =>
      cases p with
      | plain t =>
          rw [List.flatMap_cons, rewritten, textOf_ofPlain_append, ih, textOf, List.flatMap_append]
      | interpolation t =>
          rw [List.flatMap_cons, rewritten, List.singleton_append, textOf, ih, textOf,
            List.flatMap_append, flatMap_token tokens]

end Masked

/-! ## Backslashes -/

namespace Quoted

def unescapeChar (c : Char) : Text := if c = '\\' then [] else [c]

theorem flatMap_unescapeChar (t : Text) : t.flatMap unescapeChar = t.filter (· != '\\') := by
  induction t with
  | nil => rfl
  | cons c t ih =>
      rw [List.flatMap_cons, ih]
      by_cases backslash : c = '\\' <;> simp [unescapeChar, backslash]

theorem unescapeChar_keepsBraces : Piece.KeepsBraces unescapeChar where
  hash := rfl
  opening := rfl
  closing := rfl
  other c opening closing := by
    unfold unescapeChar
    split <;> simp [Ne.symm opening, Ne.symm closing]

theorem unescape_unmarked {t : Text} (apart : ¬['#', '\\'] <:+: t)
    (unmarked : ¬['#', '\x7b'] <:+: t) : ¬['#', '\x7b'] <:+: t.flatMap unescapeChar := by
  induction t with
  | nil => exact unmarked
  | cons c t ih =>
      rw [List.infix_cons_iff, not_or] at apart unmarked
      have rest := ih apart.2 unmarked.2
      rw [List.flatMap_cons, unescapeChar]
      split
      case isTrue => exact rest
      case isFalse =>
        rw [List.singleton_append, List.infix_cons_iff, not_or]
        refine ⟨fun first => ?_, rest⟩
        obtain ⟨rfl, second⟩ := List.cons_prefix_cons.mp first
        -- The next character is no backslash, so it is not passed over.
        cases t with
        | nil => simp at second
        | cons d t =>
            have kept : d ≠ '\\' := by
              rintro rfl
              exact apart.1 (by simp)
            simp only [List.flatMap_cons, unescapeChar, if_neg kept, List.singleton_append] at second
            obtain ⟨rfl, -⟩ := List.cons_prefix_cons.mp second
            exact unmarked.1 (by simp)

/-- Without a backslash after any `#`, the text says as much without its backslashes as its plain
stretches do without theirs. -/
theorem saysSomething_unescaped {t : Text} (apart : ¬['#', '\\'] <:+: t) :
    Piece.saysSomething (Piece.split (t.filter (· != '\\'))) =
      (Piece.split t).any fun p =>
        !p.isInterpolation && !allBlank (p.text.filter (· != '\\')) := by
  have cut := Piece.split_flatMap unescapeChar_keepsBraces fun s inside =>
    unescape_unmarked (t := s) fun found => apart (found.trans inside)
  simp only [flatMap_unescapeChar] at cut
  rw [cut, Piece.saysSomething_rewritten]

/-! ## Quotes -/

def escapeChar (q c : Char) : Text := if c = q then ['\\', c] else [c]

/-- The text with a backslash before every `q`. -/
def escape (q : Char) (t : Text) : Text := t.flatMap (escapeChar q)

theorem escape_cons (q c : Char) (t : Text) : escape q (c :: t) = escapeChar q c ++ escape q t := rfl

theorem not_mem_escape {q c : Char} {t : Text} (plain : c ≠ '\\') (absent : c ∉ t) :
    c ∉ escape q t := by
  intro member
  obtain ⟨d, inside, written⟩ := List.mem_flatMap.mp member
  unfold escapeChar at written
  split at written
  · rcases List.mem_cons.mp written with same | written
    · exact plain same
    · exact absent (List.mem_singleton.mp written ▸ inside)
  · exact absent (List.mem_singleton.mp written ▸ inside)

theorem filter_escape (q : Char) {t : Text} (unescaped : '\\' ∉ t) :
    (escape q t).filter (· != '\\') = t := by
  induction t with
  | nil => rfl
  | cons c t ih =>
      obtain ⟨plain, unescaped⟩ := List.ne_and_not_mem_of_not_mem_cons unescaped
      rw [escape_cons, List.filter_append, ih unescaped, escapeChar]
      split <;> simp [Ne.symm plain]

theorem escaped?_escape {q : Char} (quote : q ≠ '\\') (feed : q ≠ '\n') {t : Text}
    (unescaped : '\\' ∉ t) (rest : Text) :
    escaped? q (escape q t ++ q :: rest) = some (escape q t, rest) := by
  induction t with
  | nil => simp [escape, escaped?, quote]
  | cons c t ih =>
      obtain ⟨plain, unescaped⟩ := List.ne_and_not_mem_of_not_mem_cons unescaped
      rw [escape_cons, escapeChar]
      split
      case isTrue same =>
        subst same
        simp [escaped?, feed, ih unescaped]
      case isFalse other => simp [escaped?, other, Ne.symm plain, ih unescaped]

theorem isPrefix_of_escape {q : Char} {start t : Text} (unescaped : '\\' ∉ start)
    (escaped : start <+: escape q t) : start <+: t := by
  induction start generalizing t with
  | nil => exact List.nil_prefix
  | cons c start ih =>
      obtain ⟨plain, unescaped⟩ := List.ne_and_not_mem_of_not_mem_cons unescaped
      cases t with
      | nil => simp [escape] at escaped
      | cons d t =>
          rw [escape_cons, escapeChar] at escaped
          split at escaped
          case isTrue => exact absurd (List.cons_prefix_cons.mp escaped).1.symm plain
          case isFalse =>
            obtain ⟨same, rest⟩ := List.cons_prefix_cons.mp escaped
            exact List.cons_prefix_cons.mpr ⟨same, ih unescaped rest⟩

theorem allBlank_escape {q : Char} (solid : isBlank q = false) (t : Text) :
    allBlank (escape q t) = allBlank t := by
  induction t with
  | nil => rfl
  | cons c t ih =>
      have backslash : isBlank '\\' = false := rfl
      simp only [allBlank] at ih ⊢
      rw [escape_cons, escapeChar, List.all_append, ih]
      split
      case isTrue same => simp [same, solid, backslash]
      case isFalse => simp

/-- What delimits a string, and is part of no mark. -/
def IsQuote (q : Char) : Prop := q = '"' ∨ q = '\''

variable {q : Char}

theorem escapeChar_keepsBraces (quote : IsQuote q) : Piece.KeepsBraces (escapeChar q) where
  hash := by rcases quote with rfl | rfl <;> rfl
  opening := by rcases quote with rfl | rfl <;> rfl
  closing := by rcases quote with rfl | rfl <;> rfl
  other c opening closing := by
    unfold escapeChar
    split <;> simp [Ne.symm opening, Ne.symm closing]

theorem escape_unmarked (quote : IsQuote q) {t : Text} (unmarked : ¬['#', '\x7b'] <:+: t) :
    ¬['#', '\x7b'] <:+: escape q t := by
  induction t with
  | nil => exact unmarked
  | cons c t ih =>
      rw [List.infix_cons_iff, not_or] at unmarked
      have rest := ih unmarked.2
      rw [escape_cons, escapeChar]
      split
      case isTrue same =>
        have absent : '#' ∉ ['\\', c] := by
          subst same
          rcases quote with rfl | rfl <;> decide
        rwa [Piece.mark_infix_append absent]
      case isFalse =>
        rw [List.singleton_append, List.infix_cons_iff, not_or]
        refine ⟨fun first => unmarked.1 ?_, rest⟩
        obtain ⟨rfl, second⟩ := List.cons_prefix_cons.mp first
        exact List.cons_prefix_cons.mpr ⟨rfl, isPrefix_of_escape (by decide) second⟩

theorem mask_escape (quote : IsQuote q) (n : Nat) (t : Text) :
    Masked.mask n (escape q t) = escape q (Masked.mask n t) := by
  refine Masked.mask_flatMap (escapeChar_keepsBraces quote) (fun _ _ => escape_unmarked quote) ?_ n
  intro c inToken
  refine if_neg ?_
  rintro rfl
  rcases quote with rfl | rfl <;> simp [Masked.mark] at inToken

theorem saysSomething_escape (quote : IsQuote q) (t : Text) :
    Piece.saysSomething (Piece.split (escape q t)) = Piece.saysSomething (Piece.split t) := by
  have solid : isBlank q = false := by rcases quote with rfl | rfl <;> rfl
  have cut := Piece.split_flatMap (t := t) (escapeChar_keepsBraces quote)
    fun _ _ => escape_unmarked quote
  change Piece.saysSomething (Piece.split (t.flatMap (escapeChar q))) = _
  rw [cut, Piece.saysSomething_rewritten]
  change ((Piece.split t).any fun p => !p.isInterpolation && !allBlank (escape q p.text)) = _
  simp only [allBlank_escape solid]
  rfl

end Quoted

end SuiteAudit
