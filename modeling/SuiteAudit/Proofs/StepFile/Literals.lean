import SuiteAudit.Proofs.Feature.Draft
import SuiteAudit.Proofs.StepFile.Closings
import SuiteAudit.Proofs.StepFile.OpenLiterals

/-!
# Literals over several lines

A literal is opened on a line of its own, has a step on each line below and is closed behind the last
one. All its steps are called, in their order and each at its own line (`CallLine.callsFrom_literal`),
whatever interpolations they hold; step lines below the literal call nothing (`nestedAt_literal`).
-/

namespace SuiteAudit

open Text

/-! ## Closing parentheses -/

theorem dropClosingParen_of_getLast? {t : Text} {c : Char} (last : t.getLast? = some c)
    (solid : isBlank c = false) (other : c ≠ ')') : dropClosingParen t = t := by
  have kept : trimEnd t = t := trimEnd_eq_self (by simp [last, solid])
  have open_ : before? ")" t = none := by
    refine Option.eq_none_iff_forall_ne_some.mpr fun rest found => other ?_
    have cut : t = rest ++ [')'] := before?_eq_some.mp found
    simpa [cut] using last.symm
  simp only [dropClosingParen, kept, open_]
  rfl

theorem dropClosingParen_cons (c : Char) (t : Text) :
    dropClosingParen (c :: t) = [] ∨ dropClosingParen (c :: t) = c :: dropClosingParen t := by
  have shortened (s : Text) : trimEnd (c :: s) = [] ∨ trimEnd (c :: s) = c :: trimEnd s := by
    rw [trimEnd_cons]
    split
    · exact .inl rfl
    · exact .inr rfl
  simp only [dropClosingParen]
  rcases shortened t with empty | filled
  · rw [empty]
    exact .inl rfl
  · rw [filled]
    cases trimEnd t with
    | nil =>
        have alone : before? ")" [c] = if ')' = c then some [] else none := by
          change (if ')' = c then some [] else none).map List.reverse = _
          split <;> rfl
        rw [alone]
        split
        · exact .inl rfl
        · exact .inr rfl
    | cons d u =>
        have cut : before? ")" (c :: d :: u) = (before? ")" (d :: u)).map (c :: ·) :=
          before?_cons (List.cons_ne_nil d u) ')' c
        rw [cut]
        cases before? ")" (d :: u) with
        | none => exact .inr rfl
        | some body => exact shortened body

/-! ## Lines with a keyword -/

namespace CallLine

variable (k : StepKeyword) (t : Text)

theorem masked_keyword :
    Masked.ofLine (k.text ++ t) = ⟨k.text ++ Masked.mask 0 t, Piece.groups t⟩ := by
  have hashless : '#' ∉ k.text := by cases k <;> decide
  obtain ⟨text, segments⟩ := Masked.append_mask hashless 0 t
  rw [Masked.ofLine_eq, text, segments]

theorem string?_keyword : string? (k.text ++ t) = none := by cases k <;> rfl

theorem literalOpening?_keyword : literalOpening? (k.text ++ t) = none := by cases k <;> rfl

theorem trim_keyword : trim (k.text ++ t) = k.text ++ trimEnd t := by
  have solid : k.text.getLast?.any isBlank = false := by cases k <;> rfl
  have start : trimStart (k.text ++ t) = k.text ++ t := by cases k <;> rfl
  rw [trim, start, trimEnd_append solid]

theorem read?_keyword : StepKeyword.read? (k.text ++ ' ' :: t) = some (k, ' ' :: t) := by
  cases k <;> rfl

theorem lastStep?_keyword :
    lastStep? (k.text ++ ' ' :: t) = (before? ['\x7d'] (dropClosingParen (' ' :: t))).bind
      fun body => if hasLineFeed (trim body) = false then some (trim body) else none := by
  have blank : isBlank ' ' = true := rfl
  simp [lastStep?, read?_keyword, blank]

theorem stepText?_keyword (oneLine : hasLineFeed (trim t) = false) (filled : trim t ≠ []) :
    stepText? (k.text ++ ' ' :: t) = some (trim t) := by
  have blank : isBlank ' ' = true := rfl
  simp [stepText?, keywordText?, read?_keyword, blank, trim_cons_of_blank blank, oneLine, filled]

/-- A line that begins with a keyword can be no call and no opening. -/
theorem ofLine_keyword :
    ofLine (k.text ++ t) =
      let m := Masked.ofLine (k.text ++ trimEnd t)
      match lastStep? m.text with
      | some text => closing (m.finish text)
      | none => ofText? m inner (stepText? m.text) := by
  have filled : (k.text ++ trimEnd t).isEmpty = false := by cases k <;> rfl
  have comment : Line.isComment (k.text ++ trimEnd t) = false := by cases k <;> rfl
  have brace (s : Text) : isClosing (k.text ++ s) = false := by cases k <;> rfl
  simp only [ofLine, trim_keyword, filled, comment, masked_keyword, string?_keyword,
    literalOpening?_keyword, brace]
  rfl

theorem standsAlone_keyword : (ofLine (k.text ++ t)).standsAlone = false := by
  rw [ofLine_keyword]
  simp only
  split
  · rfl
  · unfold ofText?
    cases (stepText? _).bind _ <;> rfl

theorem callsFrom_outside {body : List Text}
    (inert : ∀ line ∈ body, (ofLine line).standsAlone = false) (n : Nat) :
    callsFrom false n body = [] := by
  induction body generalizing n with
  | nil => rfl
  | cons line body ih =>
      have silent : step false (ofLine line) = (false, none) := by
        have here := inert line List.mem_cons_self
        cases kind : ofLine line <;> simp_all [standsAlone, step]
      have rest := ih (fun line member => inert line (List.mem_cons_of_mem _ member)) (n + 1)
      simp [callsFrom, silent, rest]

end CallLine

namespace Draft

/-- A step that can stand in a literal. Its interpolations are closed, and without them it has a text
that does not end as a literal does. -/
structure LiteralStep extends Step where
  unescaped : '\\' ∉ text
  unmarked : Masked.mark ∉ text
  closed : Piece.MarksClose text
  filled : Piece.saysSomething (Piece.split text) = true
  staysOpen : (dropClosingParen (Masked.mask 0 text)).getLast? ≠ some '\x7d'

namespace LiteralStep

variable (s : LiteralStep)

/-- The last line of a literal. -/
def closingLine : Text := s.line ++ [' ', '\x7d']

/-- The text of the step with its interpolations masked. -/
def masked : Text := Masked.mask 0 s.text

theorem finish_masked (line : Text) :
    Masked.finish ⟨line, Piece.groups s.text⟩ s.masked = some s.text := by
  have finish := Masked.finish_mask (m := ⟨line, Piece.groups s.text⟩) s.unmarked List.prefix_rfl
  rwa [s.filled, if_pos rfl, Masked.filter_unescaped s.unescaped] at finish

theorem trim_masked : trim s.masked = s.masked := Masked.trim_mask s.trimmed 0

theorem masked_ne_nil : s.masked ≠ [] := by
  intro empty
  -- From an empty text no call would be put back.
  have finish := s.finish_masked []
  rw [empty] at finish
  cases finish

theorem masked_oneLine : hasLineFeed s.masked = false :=
  hasLineFeed_eq_false.mpr (Masked.not_mem_mask s.oneLine (by decide) (by decide) 0)

theorem lastStep?_masked : CallLine.lastStep? (s.keyword.text ++ ' ' :: s.masked) = none := by
  have open_ : before? ['\x7d'] (dropClosingParen (' ' :: s.masked)) = none := by
    refine Option.eq_none_iff_forall_ne_some.mpr fun rest found => s.staysOpen ?_
    have last : (dropClosingParen (' ' :: s.masked)).getLast? = some '\x7d' := by
      simp [before?_eq_some.mp found]
    rcases dropClosingParen_cons ' ' s.masked with empty | shorter
    · rw [empty] at last
      cases last
    · -- The blank after the keyword is no brace, so the text itself would end in one.
      rw [shorter, List.getLast?_cons] at last
      change (dropClosingParen s.masked).getLast? = some '\x7d'
      cases inner : (dropClosingParen s.masked).getLast? <;> simp_all
  rw [CallLine.lastStep?_keyword, open_]
  rfl

theorem lastStep?_closing :
    CallLine.lastStep? (s.keyword.text ++ ' ' :: (s.masked ++ [' ', '\x7d'])) = some s.masked := by
  have whole : dropClosingParen (' ' :: (s.masked ++ [' ', '\x7d'])) =
      ' ' :: (s.masked ++ [' ', '\x7d']) :=
    dropClosingParen_of_getLast? (c := '\x7d') (by simp [List.getLast?_cons]) rfl (by decide)
  have cut : before? ['\x7d'] (' ' :: (s.masked ++ [' ', '\x7d'])) =
      some (' ' :: (s.masked ++ [' '])) :=
    before?_eq_some.mpr (by simp)
  have text : trim (' ' :: (s.masked ++ [' '])) = s.masked := by
    have shorter : trimEnd (s.masked ++ [' ']) = trimEnd s.masked :=
      List.rdropWhile_concat_pos isBlank s.masked ' ' rfl
    rw [trim_cons_of_blank rfl, ← trim_trimEnd, shorter, trim_trimEnd, s.trim_masked]
  simp [CallLine.lastStep?_keyword, whole, cut, text, s.masked_oneLine]

theorem stepText?_masked :
    CallLine.stepText? (s.keyword.text ++ ' ' :: s.masked) = some s.masked := by
  have text := CallLine.stepText?_keyword s.keyword s.masked
  rw [s.trim_masked] at text
  exact text s.masked_oneLine s.masked_ne_nil

/-- A text after the keyword of the step, as it is masked. -/
theorem masked_line {tail : Text} (absent : '#' ∉ tail) (outside : tail.head? ≠ some '\x7b') :
    Masked.ofLine (s.keyword.text ++ ' ' :: (s.text ++ tail)) =
      ⟨s.keyword.text ++ ' ' :: (s.masked ++ tail), Piece.groups s.text⟩ := by
  obtain ⟨text, segments⟩ := Masked.mask_append absent outside (.inr s.closed) 0
  have blank := Masked.append_mask (show '#' ∉ [' '] by decide) 0 (s.text ++ tail)
  rw [text, segments, List.singleton_append, List.singleton_append] at blank
  rw [CallLine.masked_keyword, blank.1, blank.2]
  rfl

theorem ofLine_line : CallLine.ofLine s.line = .inner s.text := by
  have kept : trimEnd (' ' :: s.text) = ' ' :: s.text := by
    rw [trimEnd_cons, trimEnd_of_trimmed s.trimmed]
    simp [s.nonempty]
  have masked := s.masked_line (show '#' ∉ [] by decide) (by decide)
  rw [List.append_nil, List.append_nil] at masked
  rw [Step.line, CallLine.ofLine_keyword, kept]
  simp only [masked, s.lastStep?_masked, s.stepText?_masked, CallLine.ofText?, Option.bind_some,
    s.finish_masked]
  rfl

theorem ofLine_closingLine : CallLine.ofLine s.closingLine = .closing (some s.text) := by
  have kept : trimEnd (' ' :: (s.text ++ [' ', '\x7d'])) = ' ' :: (s.text ++ [' ', '\x7d']) := by
    refine trimEnd_eq_self ?_
    rw [List.append_cons, ← List.cons_append, List.getLast?_concat]
    rfl
  have split : s.closingLine = s.keyword.text ++ ' ' :: (s.text ++ [' ', '\x7d']) := by
    simp [closingLine, Step.line]
  rw [split, CallLine.ofLine_keyword, kept]
  simp only [s.masked_line (show '#' ∉ [' ', '\x7d'] by decide) (by decide), s.lastStep?_closing,
    s.finish_masked]

end LiteralStep

/-- A literal with a step on each line, the last of them on the line that closes it. -/
def literalLines (interior : List LiteralStep) (last : LiteralStep) : List Text :=
  "steps %Q\x7b".toList :: ((interior.map fun s => s.line) ++ [last.closingLine])

end Draft

open Draft

namespace CallLine

theorem callsFrom_inner (interior : List LiteralStep) (n : Nat) (rest : List Text) :
    callsFrom true n ((interior.map fun s => s.line) ++ rest) =
      (interior.mapIdx fun i s => (n + i, s.text)) ++ callsFrom true (n + interior.length) rest := by
  induction interior generalizing n with
  | nil => rfl
  | cons s interior ih =>
      simp [callsFrom, s.ofLine_line, step, ih, Nat.add_assoc, Nat.add_comm 1]

/-- A literal calls its steps wherever it stands, and the lines below it are outside of it. -/
theorem callsFrom_literal (inLiteral : Bool) (n : Nat) (interior : List LiteralStep)
    (last : LiteralStep) (below : List Text) :
    callsFrom inLiteral n (literalLines interior last ++ below) =
      ((interior ++ [last]).mapIdx fun i s => (n + 1 + i, s.text)) ++
        callsFrom false (n + 2 + interior.length) below := by
  have opened : ofLine "steps %Q\x7b" = opening none := by decide +kernel
  have first (rest : List Text) :
      callsFrom inLiteral n ("steps %Q\x7b".toList :: rest) = callsFrom true (n + 1) rest := by
    simp only [callsFrom, opened, step]
    rfl
  have final (n : Nat) : callsFrom true n (last.closingLine :: below) =
      (n, last.text) :: callsFrom false (n + 1) below := by
    simp only [callsFrom, last.ofLine_closingLine, step]
    rfl
  have ended : n + 1 + interior.length + 1 = n + 2 + interior.length := by omega
  rw [literalLines, List.cons_append, List.append_assoc, first, callsFrom_inner,
    List.singleton_append, final, ended, List.mapIdx_concat, List.append_assoc]
  rfl

end CallLine

/-- The steps of a literal are called in their order, each at its line below the declaration, and step
lines below the literal are not. -/
theorem nestedAt_literal (anchor : Location) (interior : List LiteralStep) (last : LiteralStep)
    (below : List (StepKeyword × Text)) :
    let body := literalLines interior last ++ below.map fun e => e.1.text ++ ' ' :: e.2
    let calls := (interior ++ [last]).mapIdx fun i s =>
      ((⟨anchor.file, anchor.line + 2 + i⟩ : Location), s.text)
    nestedAt anchor body = calls ∧
      (anchor.line + body.length ≤ maxWord → nestedAt? anchor body = .ok calls) := by
  intro body calls
  have outside : ∀ line ∈ below.map fun e => e.1.text ++ ' ' :: e.2,
      (CallLine.ofLine line).standsAlone = false := by
    intro line member
    obtain ⟨⟨k, t⟩, -, rfl⟩ := List.mem_map.mp member
    exact CallLine.standsAlone_keyword k (' ' :: t)
  have found : nestedAt anchor body = calls := by
    rw [nestedAt, nestedCalls, CallLine.callsFrom_literal, CallLine.callsFrom_outside outside]
    simp only [calls, List.append_nil, List.mapIdx_eq_zipIdx_map, List.map_map]
    refine List.map_congr_left fun e _ => ?_
    simp only [Function.comp_apply, Location.atLine, ← Nat.add_assoc]
  exact ⟨found, fun fits => found ▸ nestedAt?_of_le fits⟩

/-- A step that ends in an interpolation with braces and another interpolation inside. -/
def rowsStep : LiteralStep where
  keyword := .given
  text := "the rows #\x7brows.map \x7b |r| \"#\x7br\x7d\" \x7d\x7d"
  trimmed := by decide +kernel
  oneLine := by decide
  nonempty := by decide
  unescaped := by decide
  unmarked := by decide
  closed := by decide +kernel
  filled := by decide +kernel
  staysOpen := by decide +kernel

/-- A step that ends in a parenthesis behind an interpolation. -/
def totalStep : LiteralStep where
  keyword := .outcome
  text := "the total is #\x7bsum\x7d (in #\x7bunit\x7d)"
  trimmed := by decide +kernel
  oneLine := by decide
  nonempty := by decide
  unescaped := by decide
  unmarked := by decide
  closed := by decide +kernel
  filled := by decide +kernel
  staysOpen := by decide +kernel

theorem nestedAt_literal_rows :
    let anchor : Location := ⟨⟨"cart.rb"⟩, 10⟩
    let body : List Text := ["steps %Q\x7b",
      "Given the rows #\x7brows.map \x7b |r| \"#\x7br\x7d\" \x7d\x7d",
      "Then the total is #\x7bsum\x7d (in #\x7bunit\x7d) \x7d",
      "And more \x7d"]
    nestedAt anchor body = [(⟨⟨"cart.rb"⟩, 12⟩, rowsStep.text), (⟨⟨"cart.rb"⟩, 13⟩, totalStep.text)] ∧
      nestedAt? anchor body = .ok (nestedAt anchor body) := by
  intro anchor body
  obtain ⟨found, completes⟩ :=
    nestedAt_literal anchor [rowsStep] totalStep [(.and, "more \x7d".toList)]
  have written : body = literalLines [rowsStep] totalStep ++
      [((.and : StepKeyword), "more \x7d".toList)].map fun e => e.1.text ++ ' ' :: e.2 := by
    decide +kernel
  rw [written]
  exact ⟨found, (completes (by decide +kernel)).trans (congrArg _ found.symm)⟩

end SuiteAudit
