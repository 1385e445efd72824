import SuiteAudit.Proofs.StepFile.Escapes
import SuiteAudit.Proofs.Text.Trim

/-!
# Calls in quotes

A step is called by its text in quotes, with a backslash before every quote of the same kind. Whatever
the text is, interpolations with quotes and unclosed marks included, the call is read back as the text,
unless nothing but interpolations is called (`CallLine.ofLine_quotedCall`).
-/

namespace SuiteAudit

open Text

namespace CallLine

/-- A call of what stands in quotes, by `step` or `steps`, with or without parentheses. -/
def inQuotes (plural parens : Bool) (q : Char) (content : Text) : Text :=
  (if plural then "steps".toList else "step".toList) ++ (if parens then '(' else ' ') ::
    q :: (content ++ q :: if parens then [')'] else [])

/-- The call of a text in quotes. -/
def quotedCall (plural parens : Bool) (q : Char) (t : Text) : Text :=
  inQuotes plural parens q (Quoted.escape q t)

variable {q : Char} {t : Text}

theorem withoutKeyword_eq_self {t : Text}
    (keywordless : ∀ (k : StepKeyword) (c : Char), isBlank c = true → ¬k.text ++ [c] <+: t) :
    withoutKeyword t = t := by
  unfold withoutKeyword
  split
  case h_1 k c rest found =>
    split
    case isTrue blank =>
      obtain ⟨keyword, -, same⟩ := List.exists_of_findSome?_eq_some found
      obtain ⟨_, cut, equal⟩ := Option.map_eq_some_iff.mp same
      cases equal
      exact absurd ⟨rest, by simp [after?_eq_some.mp cut]⟩ (keywordless k c blank)
    case isFalse => rfl
  case h_2 => rfl

theorem keywordless_escape_mask
    (keywordless : ∀ (k : StepKeyword) (c : Char), isBlank c = true → ¬k.text ++ [c] <+: t)
    (n : Nat) (k : StepKeyword) (c : Char) (blank : isBlank c = true) :
    ¬k.text ++ [c] <+: Quoted.escape q (Masked.mask n t) := by
  intro start
  have absent {d : Char} (letter : d ∉ k.text) (solid : isBlank d = false) : d ∉ k.text ++ [c] := by
    simp only [List.mem_append, List.mem_singleton, not_or]
    refine ⟨letter, ?_⟩
    rintro rfl
    simp [blank] at solid
  -- A keyword has neither a backslash nor a mark, so it would begin the text itself.
  have unescaped : '\\' ∉ k.text ++ [c] := absent (by cases k <;> decide) rfl
  have unmarked : Masked.mark ∉ k.text ++ [c] := absent (by cases k <;> decide) rfl
  exact keywordless k c blank
    (Masked.isPrefix_of_mask unmarked (Quoted.isPrefix_of_escape unescaped start))

theorem trim_inQuotes (quote : Quoted.IsQuote q) (plural parens : Bool) (content : Text) :
    trim (inQuotes plural parens q content) = inQuotes plural parens q content := by
  have start : trimStart (inQuotes plural parens q content) = inQuotes plural parens q content := by
    cases plural <;> rfl
  have closing : ((q :: if parens then [')'] else []).getLast?).any isBlank = false := by
    cases parens <;> rcases quote with rfl | rfl <;> rfl
  have solid : (inQuotes plural parens q content).getLast?.any isBlank = false := by
    rw [inQuotes, ← List.cons_append, ← List.cons_append, ← List.append_assoc,
      List.getLast?_append_cons]
    exact closing
  rw [trim, start, trimEnd_eq_self solid]

theorem masked_inQuotes (quote : Quoted.IsQuote q) (plural parens : Bool) (content : Text) :
    Masked.ofLine (inQuotes plural parens q content) =
      ⟨inQuotes plural parens q (Masked.mask 0 content), Piece.groups content⟩ := by
  let head : Text := (if plural then "steps".toList else "step".toList) ++
    [if parens then '(' else ' ', q]
  let tail : Text := q :: if parens then [')'] else []
  have whole (content : Text) : inQuotes plural parens q content = head ++ (content ++ tail) := by
    simp only [inQuotes, head, tail, List.append_assoc, List.cons_append, List.nil_append]
  have hashless : '#' ∉ head := by
    cases plural <;> cases parens <;> rcases quote with rfl | rfl <;> decide
  have closed : '#' ∉ tail ∧ tail.head? ≠ some '\x7b' ∧ '\x7d' ∉ tail := by
    cases parens <;> rcases quote with rfl | rfl <;> decide
  obtain ⟨text, segments⟩ := Masked.append_mask hashless 0 (content ++ tail)
  obtain ⟨text', segments'⟩ := Masked.mask_append (t := content) closed.1 closed.2.1 (.inl closed.2.2) 0
  rw [Masked.ofLine_eq, whole, whole, text, text', segments, segments']

theorem string?_inQuotes (quote : Quoted.IsQuote q) {content : Text} (unescaped : '\\' ∉ content)
    (plural parens : Bool) :
    string? (inQuotes plural parens q (Quoted.escape q content)) =
      some (q, withoutKeyword (Quoted.escape q content)) := by
  have called (content : Text) : afterCall? (inQuotes plural parens q content) =
      some (!plural, q :: (content ++ q :: if parens then [')'] else [])) := by
    cases plural <;> cases parens <;> rcases quote with rfl | rfl <;> rfl
  have closed := Quoted.escaped?_escape (q := q) (by rcases quote with rfl | rfl <;> decide)
    (by rcases quote with rfl | rfl <;> decide) unescaped (if parens then [')'] else [])
  have ends : endsCall (if parens then [')'] else []) = true := by cases parens <;> rfl
  have delimits : q = '"' ∨ q = '\'' := quote
  simp [string?, called, closed, ends, delimits]

/-- A text in quotes is called as it is, if it says something besides its interpolations. -/
theorem ofLine_quotedCall (quote : Quoted.IsQuote q) (unescaped : '\\' ∉ t)
    (unmarked : Masked.mark ∉ t)
    (keywordless : ∀ (k : StepKeyword) (c : Char), isBlank c = true → ¬k.text ++ [c] <+: t)
    (plural parens : Bool) :
    ofLine (quotedCall plural parens q t) =
      if Piece.saysSomething (Piece.split t) then call t else other := by
  have filled : (quotedCall plural parens q t).isEmpty = false := by cases plural <;> rfl
  have comment : Line.isComment (quotedCall plural parens q t) = false := by cases plural <;> rfl
  have trimmed : trim (quotedCall plural parens q t) = quotedCall plural parens q t :=
    trim_inQuotes quote plural parens _
  have masked : Masked.ofLine (quotedCall plural parens q t) = _ :=
    masked_inQuotes quote plural parens _
  have text := string?_inQuotes quote (Masked.not_mem_mask unescaped (by decide) (by decide) 0)
    plural parens
  rw [withoutKeyword_eq_self (keywordless_escape_mask keywordless 0)] at text
  have finish := Masked.finish_mask (m := Masked.ofLine (quotedCall plural parens q t))
    (Quoted.not_mem_escape (by decide) unmarked) (by rw [masked])
  rw [Quoted.mask_escape quote, Quoted.saysSomething_escape quote,
    Quoted.filter_escape q unescaped] at finish
  rw [Quoted.mask_escape quote] at masked
  have content : string? (Masked.ofLine (quotedCall plural parens q t)).text =
      some (q, Quoted.escape q (Masked.mask 0 t)) := by
    rw [masked]
    exact text
  simp only [ofLine, trimmed, filled, comment, content, ofText?, Option.bind_some, finish]
  cases Piece.saysSomething (Piece.split t) <;> rfl

/-- Quotes inside and outside of an interpolation, and a mark that is never closed. -/
def quotedRow : Text := "\"#\x7brow['a'][\"b\"]\x7d\" is '#\x7bopen'"

theorem ofLine_quotedCall_row :
    quotedCall true true '\'' quotedRow =
        "steps('\"#\x7brow[\\'a\\'][\"b\"]\x7d\" is \\'#\x7bopen\\'')".toList ∧
      Piece.saysSomething (Piece.split quotedRow) = true ∧
      ofLine (quotedCall true true '\'' quotedRow) = call quotedRow := by
  have filled : Piece.saysSomething (Piece.split quotedRow) = true := by decide +kernel
  have unlike (k : StepKeyword) : ¬k.text <+: quotedRow := by cases k <;> decide
  have called := ofLine_quotedCall (t := quotedRow) (q := '\'') (.inr rfl) (by decide) (by decide)
    (fun k c _ start => unlike k ((List.prefix_append _ _).trans start)) true true
  rw [filled] at called
  exact ⟨by decide +kernel, filled, called⟩

end CallLine

end SuiteAudit
