import SuiteAudit.Proofs.StepFile.Closings
import SuiteAudit.Proofs.StepFile.Escapes
import SuiteAudit.Proofs.StepFile.NestedLines

/-!
# What is left of a call

The text of a call is an excerpt of the masked line, cut between tokens (`Masked.Excerpt`), so it is the
mask of a part of the line, and that part says something besides its interpolations. The backslashes are
taken away only afterwards. A call of which nothing else is known is then left with nothing or with
interpolations only (`CallLine.text?_ofLine`).
-/

namespace SuiteAudit

open Text

namespace Masked

/-! ## Excerpts -/

/-- Whether the character stands neither in a mark of an interpolation nor in a token. -/
def separates (c : Char) : Bool := c != '#' && c != mark && !c.isDigit

/-- The part is cut out of the text behind no mark and no token, and not inside of a token. -/
def Excerpt (part t : Text) : Prop :=
  ∃ before after, t = before ++ (part ++ after) ∧ before.all separates = true ∧
    after.head?.all separates = true

theorem separates_of_blank {c : Char} (blank : isBlank c = true) : separates c = true := by
  have digit : c.isDigit = false := by
    rw [← Bool.not_eq_true, Char.isDigit_iff_toNat]
    rintro ⟨low, high⟩
    have low : 48 ≤ c.toNat := low
    have high : c.toNat ≤ 57 := high
    simp only [isBlank, Bool.or_eq_true, Bool.and_eq_true, decide_eq_true_eq, beq_iff_eq] at blank
    omega
  have hash : c ≠ '#' := by
    rintro rfl
    cases blank
  have other : c ≠ mark := by
    rintro rfl
    cases blank
  simp [separates, digit, hash, other]

theorem Excerpt.refl (t : Text) : Excerpt t t := ⟨[], [], by simp, rfl, rfl⟩

theorem Excerpt.trans {part middle t : Text} (inner : Excerpt part middle) (outer : Excerpt middle t) :
    Excerpt part t := by
  obtain ⟨before, after, rfl, start, stop⟩ := inner
  obtain ⟨before', after', rfl, start', stop'⟩ := outer
  refine ⟨before' ++ before, after ++ after', by simp, by simp_all, ?_⟩
  cases after with
  | nil => exact stop'
  | cons c after => exact stop

theorem excerpt_after? {head t rest : Text} (found : after? head t = some rest)
    (solid : head.all separates = true) : Excerpt rest t :=
  ⟨head, [], by simp [after?_eq_some.mp found], solid, rfl⟩

theorem excerpt_cons {c : Char} (solid : separates c = true) (t : Text) : Excerpt t (c :: t) :=
  ⟨[c], [], by simp, by simp [solid], rfl⟩

theorem excerpt_before? {tail t rest : Text} (found : before? tail t = some rest)
    (solid : tail.head?.all separates = true) : Excerpt rest t :=
  ⟨[], tail, by simp [before?_eq_some.mp found], rfl, solid⟩

theorem excerpt_trimStart (t : Text) : Excerpt (trimStart t) t := by
  refine ⟨t.takeWhile isBlank, [], ?_, ?_, rfl⟩
  · rw [List.append_nil, trimStart, List.takeWhile_append_dropWhile]
  · exact List.all_eq_true.mpr fun c member => separates_of_blank (List.mem_takeWhile_imp member)

theorem excerpt_of_tail (part : Text) {tail : Text} (solid : ∀ c ∈ tail, separates c = true) :
    Excerpt part (part ++ tail) := by
  refine ⟨[], tail, rfl, rfl, ?_⟩
  cases tail with
  | nil => rfl
  | cons c tail => exact solid c List.mem_cons_self

theorem excerpt_trimEnd (t : Text) : Excerpt (trimEnd t) t := by
  obtain ⟨blanks, split, blank⟩ := exists_trimEnd_append t
  have cut := excerpt_of_tail (trimEnd t) fun c member => separates_of_blank (blank c member)
  rwa [← split] at cut

theorem excerpt_trim (t : Text) : Excerpt (trim t) t := (excerpt_trimEnd _).trans (excerpt_trimStart t)

theorem excerpt_dropClosingParen (t : Text) : Excerpt (dropClosingParen t) t := by
  obtain ⟨tail, split, ending⟩ := exists_dropClosingParen_append t
  have solid : ∀ c ∈ tail, separates c = true := by
    intro c member
    rcases ending c member with blank | rfl
    · exact separates_of_blank blank
    · rfl
  have cut := excerpt_of_tail (dropClosingParen t) solid
  rwa [← split] at cut

theorem excerpt_after?_getD {head : Text} (solid : head.all separates = true) (t : Text) :
    Excerpt ((after? head t).getD t) t := by
  cases found : after? head t with
  | none => exact Excerpt.refl t
  | some rest => exact excerpt_after? found solid

theorem excerpt_findSome? {α : Type} (text : α → Text) {heads : List α} {t rest : Text} {a : α}
    (solid : ∀ a ∈ heads, (text a).all separates = true)
    (found : (heads.findSome? fun a => (after? (text a) t).map fun rest => (a, rest)) =
      some (a, rest)) : Excerpt rest t := by
  obtain ⟨b, member, same⟩ := List.exists_of_findSome?_eq_some found
  obtain ⟨_, cut, equal⟩ := Option.map_eq_some_iff.mp same
  cases equal
  exact excerpt_after? cut (solid _ member)

theorem exists_of_excerpt {line part t : Text} (unmarked : mark ∉ line)
    (cut : Excerpt part (mask 0 line)) (found : (ofLine line).finish part = some t) :
    ∃ u, u <:+: line ∧ t = u.filter (· != '\\') ∧
      Piece.saysSomething (Piece.split u) = true := by
  obtain ⟨before, after, whole, start, stop⟩ := cut
  have hashless : '#' ∉ before := fun member => by
    have := List.all_eq_true.mp start '#' member
    cases this
  have tokenless : mark ∉ before := fun member => by
    have := List.all_eq_true.mp start mark member
    cases this
  -- What stands before the part has no token, so the line begins with it and the rest is masked alone.
  obtain ⟨rest, rfl⟩ := isPrefix_of_mask tokenless ⟨part ++ after, whole.symm⟩
  obtain ⟨masked, groups⟩ := append_mask hashless 0 rest
  rw [masked] at whole
  obtain ⟨u, v, rfl, same⟩ := exists_of_mask_eq_append (List.append_cancel_left whole) fun c first => by
    rw [Option.mem_def.mp first] at stop
    simp only [Option.all_some, separates, Bool.and_eq_true, bne_iff_ne, Bool.not_eq_true'] at stop
    exact ⟨stop.1.2, stop.2⟩
  have known : Piece.groups u <+: (ofLine (before ++ (u ++ v))).segments := by
    rw [ofLine_eq, groups]
    exact groups_isPrefix u v
  have plain : mark ∉ u := fun member => unmarked (by simp [member])
  rw [← same, finish_mask plain known] at found
  split at found
  case isTrue filled =>
    cases found
    exact ⟨u, ⟨before, v, by simp⟩, rfl, filled⟩
  case isFalse => cases found

end Masked

namespace CallLine

open Masked

/-! ## The parts of a line -/

theorem excerpt_afterCall? {t rest : Text} {singular : Bool}
    (found : afterCall? t = some (singular, rest)) : Excerpt rest t := by
  simp only [afterCall?, Option.bind_eq_bind, Option.bind_eq_some_iff] at found
  obtain ⟨called, start, found⟩ := found
  have opened (t : Text) : Excerpt (trimStart ((after? "(" (trimStart t)).getD (trimStart t))) t :=
    (excerpt_trimStart _).trans ((excerpt_after?_getD rfl _).trans (excerpt_trimStart t))
  refine Excerpt.trans ?_ (excerpt_after? start rfl)
  split at found
  · cases found
    exact (opened _).trans (excerpt_cons rfl _)
  · cases found
    exact opened called

theorem excerpt_read? {t rest : Text} {k : StepKeyword} (found : StepKeyword.read? t = some (k, rest)) :
    Excerpt rest t :=
  excerpt_findSome? StepKeyword.text (by decide) found

theorem excerpt_withoutKeyword (t : Text) : Excerpt (withoutKeyword t) t := by
  unfold withoutKeyword
  split
  case h_1 k c rest found =>
    split
    case isTrue blank =>
      have gap : Excerpt rest (c :: rest) := excerpt_cons (separates_of_blank blank) rest
      exact (excerpt_trimStart rest).trans (gap.trans (excerpt_read? found))
    case isFalse => exact Excerpt.refl t
  case h_2 => exact Excerpt.refl t

theorem excerpt_string? {t content : Text} {q : Char} (found : string? t = some (q, content)) :
    Excerpt content t := by
  simp only [string?, Option.bind_eq_bind, Option.bind_eq_some_iff] at found
  obtain ⟨⟨singular, rest⟩, called, found⟩ := found
  refine Excerpt.trans ?_ (excerpt_afterCall? called)
  split at found
  case h_1 c rest same =>
    split at found
    case isTrue quote =>
      obtain ⟨⟨inner, tail⟩, closed, found⟩ := Option.bind_eq_some_iff.mp found
      split at found
      case isTrue =>
        cases found
        obtain rfl := same
        rw [Quoted.escaped?_eq_some closed]
        refine (excerpt_withoutKeyword inner).trans ⟨[q], q :: tail, rfl, ?_, ?_⟩
        · rcases quote with rfl | rfl <;> rfl
        · rcases quote with rfl | rfl <;> rfl
      case isFalse => cases found
    case isFalse => cases found
  case h_2 => cases found

theorem excerpt_literalOpening? {t rest : Text} {singular : Bool}
    (found : literalOpening? t = some (singular, rest)) : Excerpt rest t := by
  simp only [literalOpening?, Option.bind_eq_bind, Option.bind_eq_some_iff] at found
  obtain ⟨⟨one, called⟩, start, percent, mark, inside, brace, found⟩ := found
  split at found
  case isTrue => cases found
  case isFalse =>
    cases found
    have letter : Excerpt (((afterAny? ["q", "Q"] percent).map Prod.snd).getD percent) percent := by
      cases found : afterAny? ["q", "Q"] percent with
      | none => exact Excerpt.refl percent
      | some s => exact excerpt_findSome? id (by decide) found
    exact (excerpt_trim inside).trans ((excerpt_after? brace rfl).trans
      (letter.trans ((excerpt_after? mark rfl).trans (excerpt_afterCall? start))))

theorem excerpt_stepText? {t text : Text} (found : stepText? t = some text) : Excerpt text t := by
  obtain ⟨found, -⟩ := Option.filter_eq_some_iff.mp found
  simp only [keywordText?, Option.bind_eq_bind, Option.bind_eq_some_iff] at found
  obtain ⟨⟨keyword, rest⟩, start, found⟩ := found
  split at found
  case isTrue =>
    cases found
    exact (excerpt_trim rest).trans (excerpt_read? start)
  case isFalse => cases found

theorem excerpt_lastStep? {t text : Text} (found : lastStep? t = some text) : Excerpt text t := by
  simp only [lastStep?, Option.bind_eq_bind, Option.bind_eq_some_iff] at found
  obtain ⟨⟨keyword, rest⟩, start, body, closed, found⟩ := found
  split at found
  case isTrue =>
    cases found
    exact (excerpt_trim body).trans ((excerpt_before? closed rfl).trans
      ((excerpt_dropClosingParen rest).trans (excerpt_read? start)))
  case isFalse => cases found

theorem excerpt_withoutClosing (t : Text) : Excerpt (withoutClosing t) t := by
  simp only [withoutClosing]
  refine Excerpt.trans ?_ (excerpt_dropClosingParen t)
  cases closed : before? "\x7d" (dropClosingParen t) with
  | none => exact Excerpt.refl _
  | some body => exact (excerpt_trimEnd body).trans (excerpt_before? closed rfl)

theorem text?_ofText? {m : Masked} {make : Text → CallLine} {part : Option Text} {t : Text}
    (same : ∀ u, (make u).text? = some u) (carried : (ofText? m make part).text? = some t) :
    ∃ u, part = some u ∧ m.finish u = some t := by
  unfold ofText? at carried
  cases found : part.bind m.finish with
  | none =>
      rw [found] at carried
      cases carried
  | some u =>
      rw [found, Option.map_some, Option.getD_some, same] at carried
      cases carried
      exact Option.bind_eq_some_iff.mp found

theorem excerpt_ofOpening {line rest t : Text} {m : Masked} {singular : Bool}
    (carried : (ofOpening line m singular rest).text? = some t) :
    ∃ part, Excerpt part rest ∧ m.finish part = some t := by
  unfold ofOpening at carried
  split at carried
  case isTrue => cases carried
  case isFalse =>
    split at carried
    case isTrue =>
      obtain ⟨part, chosen, found⟩ := text?_ofText? (fun _ => rfl) carried
      refine ⟨part, Excerpt.trans ?_ (excerpt_withoutClosing rest), found⟩
      rcases Option.or_eq_some_iff.mp chosen with step | ⟨-, bare⟩
      · exact excerpt_stepText? step
      · split at bare
        · cases bare
          exact Excerpt.refl _
        · cases bare
    case isFalse =>
      obtain ⟨part, step, found⟩ := Option.bind_eq_some_iff.mp carried
      exact ⟨part, excerpt_stepText? step, found⟩

/-- Whatever a line carries is the text of an excerpt of the masked line. -/
theorem excerpt_ofLine {raw t : Text} (carried : (ofLine raw).text? = some t) :
    ∃ part, Excerpt part (mask 0 (trim raw)) ∧ (Masked.ofLine (trim raw)).finish part = some t := by
  simp only [ofLine] at carried
  split at carried
  case isTrue => cases carried
  case isFalse =>
    split at carried
    case h_1 q content quoted =>
      obtain ⟨_, same, found⟩ := text?_ofText? (fun _ => rfl) carried
      cases same
      exact ⟨content, excerpt_string? quoted, found⟩
    case h_2 =>
      split at carried
      case h_1 singular rest opened =>
        obtain ⟨part, cut, found⟩ := excerpt_ofOpening carried
        exact ⟨part, cut.trans (excerpt_literalOpening? opened), found⟩
      case h_2 =>
        split at carried
        case h_1 text last => exact ⟨text, excerpt_lastStep? last, carried⟩
        case h_2 =>
          split at carried
          case isTrue => cases carried
          case isFalse =>
            obtain ⟨part, step, found⟩ := text?_ofText? (fun _ => rfl) carried
            exact ⟨part, excerpt_stepText? step, found⟩

/-- What a line carries is a part of the line without its backslashes, and the part says something
besides its interpolations. So does the text that is carried, if backslashes are not all that the part
says and none stands inside of a mark. -/
theorem text?_ofLine {line t : Text} (unmarked : Masked.mark ∉ line)
    (carried : (ofLine line).text? = some t) :
    ∃ u, u <:+: line ∧ t = u.filter (· != '\\') ∧ Piece.saysSomething (Piece.split u) = true ∧
      ('\\' ∉ line → Piece.saysSomething (Piece.split t) = true) ∧
      (¬['#', '\\'] <:+: u → Piece.saysSomething (Piece.split t) =
        (Piece.split u).any fun p =>
          !p.isInterpolation && !allBlank (p.text.filter (· != '\\'))) := by
  obtain ⟨part, cut, found⟩ := excerpt_ofLine carried
  have inside : trim line <:+: line :=
    (trimEnd_isPrefix _).isInfix.trans (trimStart_suffix line).isInfix
  obtain ⟨u, within, rfl, filled⟩ :=
    exists_of_excerpt (fun member => unmarked (inside.subset member)) cut found
  refine ⟨u, within.trans inside, rfl, filled, fun unescaped => ?_, Quoted.saysSomething_unescaped⟩
  rwa [Masked.filter_unescaped fun member => unescaped (inside.subset (within.subset member))]

/-- A call with escaped quotes around a number, and an interpolation. -/
def escapedCall : Text := "step \"I have \\\"3\\\" #\x7bthings\x7d\""

theorem text?_ofLine_escaped :
    Masked.mark ∉ escapedCall ∧
      (ofLine escapedCall).text? = some "I have \"3\" #\x7bthings\x7d".toList ∧
      ∃ u, u <:+: escapedCall ∧ "I have \"3\" #\x7bthings\x7d".toList = u.filter (· != '\\') ∧
        Piece.saysSomething (Piece.split u) = true := by
  have unmarked : Masked.mark ∉ escapedCall := by decide
  have carried : (ofLine escapedCall).text? = some "I have \"3\" #\x7bthings\x7d".toList := by
    decide +kernel
  obtain ⟨u, inside, same, filled, -⟩ := text?_ofLine unmarked carried
  exact ⟨unmarked, carried, u, inside, same, filled⟩

/-- Calls that are nothing, or nothing but an interpolation, once their backslashes are taken away. -/
theorem ofLine_onlyBackslashes :
    ofLine "Given \\".toList = inner [] ∧
      ofLine "step \"\\#\x7bname\x7d\"".toList = call "#\x7bname\x7d".toList ∧
      ofLine "step \"#\\\x7bname\x7d\"".toList = call "#\x7bname\x7d".toList ∧
      Piece.split "#\x7bname\x7d".toList = [.interpolation "#\x7bname\x7d".toList] ∧
      Piece.saysSomething (Piece.split "#\x7bname\x7d".toList) = false := by
  decide +kernel

end CallLine

end SuiteAudit
