import SuiteAudit.Proofs.StepFile.NestedLines
import SuiteAudit.Proofs.Text.Layout

/-!
# Where a regular expression ends

A declaration line is read up to the last slash after which it can go on as one, with flags, the opener of a block,
parameters, code and a comment. What can go on so is a small grammar (`Ending`), and the reader accepts exactly its
texts (`blockAfter?_isSome_iff`). So the source of a definition is what stands between the slashes unless the block or
the comment on the same line has a slash with such a text behind it; then the source goes on to the last of these
(`ofText_regexLine`).
-/

namespace SuiteAudit

open Text

/-! ## What can end a declaration -/

namespace BlockStart

/-- Blanks, perhaps with a comment behind them. -/
inductive Remark : Text → Prop
  | blank {space : Text} (blank : allBlank space = true) : Remark space
  | comment {space : Text} (blank : allBlank space = true) (text : Text) : Remark (space ++ '#' :: text)

/-- What can follow the brace that closes a block. -/
inductive Closing : Text → Prop
  | bare {rest : Text} (remark : Remark rest) : Closing rest
  | parenthesis {space rest : Text} (blank : allBlank space = true) (remark : Remark rest) :
      Closing (space ++ ')' :: rest)

/-- What can follow the opener of a block and its parameters. -/
inductive Tail : Text → Prop
  | below {rest : Text} (remark : Remark rest) : Tail rest
  | inline {space rest : Text} (blank : allBlank space = true) (code : Text)
      (start : ∀ c ∈ code.head?, isBlank c = false ∧ c ≠ '#' ∧ c ≠ '\x7d') (closing : Closing rest) :
      Tail (space ++ (code ++ '\x7d' :: rest))

/-- A block from its opener to the end of the line. -/
inductive Start : Text → Prop
  | plain (opener : Opener) {rest : Text} (tail : Tail rest) : Start (opener.text ++ rest)
  | parameters (opener : Opener) {space names rest : Text} (blank : allBlank space = true)
      (single : '|' ∉ names) (tail : Tail rest) : Start (opener.text ++ (space ++ '|' :: (names ++ '|' :: rest)))

theorem isTail_iff {t : Text} (oneLine : '\n' ∉ t) : isTail t = true ↔ Remark t := by
  constructor
  · intro tail
    obtain ⟨space, blank, whole⟩ := exists_trimStart t
    unfold isTail at tail
    split at tail
    case h_1 none =>
      rw [none, List.append_nil] at whole
      exact whole ▸ .blank blank
    case h_2 text comment =>
      rw [comment] at whole
      exact whole ▸ .comment blank text
    case h_3 => cases tail
  · rintro (⟨blank⟩ | ⟨blank, text⟩)
    · rw [isTail, trimStart_of_allBlank blank]
    · rw [isTail, trimStart_append_allBlank blank, trimStart_of_solid (by decide)]
      have single : '\n' ∉ text := fun member => oneLine (by simp [member])
      simpa using hasLineFeed_eq_false.mpr single

theorem isClosingTail_iff {t : Text} (oneLine : '\n' ∉ t) : isClosingTail t = true ↔ Closing t := by
  constructor
  · intro tail
    unfold isClosingTail at tail
    split at tail
    case h_1 rest found =>
      obtain ⟨space, blank, whole⟩ := exists_trimStart t
      rw [found] at whole
      subst whole
      exact .parenthesis blank ((isTail_iff fun member => oneLine (by simp [member])).mp tail)
    case h_2 => exact .bare ((isTail_iff oneLine).mp tail)
  · rintro (⟨remark⟩ | ⟨blank, remark⟩)
    · have tail := (isTail_iff oneLine).mpr remark
      unfold isClosingTail
      split
      case h_1 found => simp [isTail, found] at tail
      case h_2 => exact tail
    · rw [isClosingTail, trimStart_append_allBlank blank, trimStart_of_solid (by decide)]
      exact (isTail_iff fun member => oneLine (by simp [member])).mpr remark

theorem exists_of_inlineCode? {t code : Text} (found : inlineCode? t = some code) :
    ∃ rest, t = code ++ '\x7d' :: rest ∧ isClosingTail rest = true := by
  induction t generalizing code with
  | nil => cases found
  | cons c t ih =>
      rw [inlineCode?] at found
      split at found
      case isTrue closing =>
        obtain ⟨brace, tail⟩ := Bool.and_eq_true_iff.mp closing
        cases found
        exact ⟨t, by rw [of_decide_eq_true brace, List.nil_append], tail⟩
      case isFalse =>
        obtain ⟨code, inner, rfl⟩ := Option.map_eq_some_iff.mp found
        obtain ⟨rest, rfl, tail⟩ := ih inner
        exact ⟨rest, rfl, tail⟩

theorem isSome_inlineCode? (code : Text) {rest : Text} (tail : isClosingTail rest = true) :
    (inlineCode? (code ++ '\x7d' :: rest)).isSome = true := by
  induction code with
  | nil => simp [inlineCode?, tail]
  | cons c code ih =>
      rw [List.cons_append, inlineCode?]
      split
      · rfl
      · rwa [Option.isSome_map]

theorem tail_of_readTail? {t : Text} (oneLine : '\n' ∉ t) (read : (readTail? t).isSome = true) : Tail t := by
  obtain ⟨space, blank, whole⟩ := exists_trimStart t
  unfold readTail? at read
  split at read
  case h_1 none =>
    rw [none, List.append_nil] at whole
    exact whole ▸ .below (.blank blank)
  case h_2 text comment =>
    rw [comment] at whole
    exact whole ▸ .below (.comment blank text)
  case h_3 rest brace =>
    rw [brace] at whole
    subst whole
    split at read
    case isTrue closing =>
      have closing := (isClosingTail_iff fun member => oneLine (by simp [member])).mp closing
      exact .inline blank [] (by simp) closing
    case isFalse => cases read
  case h_4 c rest unmarked unclosed found =>
    obtain ⟨result, read⟩ := Option.isSome_iff_exists.mp read
    obtain ⟨code, inner, -⟩ := Option.bind_eq_some_iff.mp read
    obtain ⟨rest, rfl, closing⟩ := exists_of_inlineCode? inner
    have solid : isBlank c = false := by
      rcases trimStart_cases t with none | ⟨d, after, start, solid⟩
      · simp [none] at found
      · rw [start] at found
        cases found
        exact solid
    rw [found] at whole
    subst whole
    have closing := (isClosingTail_iff fun member => oneLine (by simp [member])).mp closing
    refine .inline blank (c :: code) ?_ closing
    rintro _ ⟨⟩
    exact ⟨solid, unmarked, unclosed⟩

theorem isSome_readTail?_code {c : Char} {code rest : Text} (oneLine : '\n' ∉ c :: (code ++ '\x7d' :: rest))
    (start : isBlank c = false ∧ c ≠ '#' ∧ c ≠ '\x7d') (closing : isClosingTail rest = true) :
    (readTail? (c :: (code ++ '\x7d' :: rest))).isSome = true := by
  obtain ⟨inner, found⟩ := Option.isSome_iff_exists.mp (isSome_inlineCode? code closing)
  obtain ⟨after, whole, -⟩ := exists_of_inlineCode? found
  rw [readTail?, trimStart_of_solid start.1]
  split
  case h_1 none => cases none
  case h_2 marked => exact absurd (List.cons.inj marked).1 start.2.1
  case h_3 closed => exact absurd (List.cons.inj closed).1 start.2.2
  case h_4 same =>
    obtain ⟨rfl, rfl⟩ := List.cons.inj same
    have single : '\n' ∉ trimEnd (c :: inner) := by
      intro member
      apply oneLine
      rw [whole, ← List.cons_append]
      exact List.mem_append_left _ ((trimEnd_isPrefix _).subset member)
    simp only [found, Option.bind_eq_bind, Option.bind_some, hasLineFeed_eq_false.mpr single]
    rfl

theorem readTail?_append_blank {space : Text} (blank : allBlank space = true) (t : Text) :
    readTail? (space ++ t) = readTail? t := by
  rw [readTail?, readTail?, trimStart_append_allBlank blank]

theorem isSome_readTail? {t : Text} (oneLine : '\n' ∉ t) (tail : Tail t) : (readTail? t).isSome = true := by
  rcases tail with remark | ⟨blank, code, start, closing⟩
  · unfold readTail?
    rcases remark with ⟨blank⟩ | ⟨blank, text⟩
    · rw [trimStart_of_allBlank blank]
      rfl
    · rw [trimStart_append_allBlank blank, trimStart_of_solid (by decide)]
      have single : '\n' ∉ text := fun member => oneLine (by simp [member])
      simp [hasLineFeed_eq_false.mpr single]
  · have closing := (isClosingTail_iff fun member => oneLine (by simp [member])).mpr closing
    rw [readTail?_append_blank blank]
    cases code with
    | nil =>
        rw [List.nil_append, readTail?, trimStart_of_solid (by decide)]
        simp [closing]
    | cons c code =>
        have oneLine : '\n' ∉ c :: (code ++ '\x7d' :: _) := fun member => oneLine (List.mem_append_right _ member)
        exact isSome_readTail?_code oneLine (start c rfl) closing

/-! ## Blocks on a line -/

theorem parameters?_iff {t names rest : Text} :
    parameters? t = some (names, rest) ↔ t = '|' :: (names ++ '|' :: rest) ∧ '|' ∉ names := by
  constructor
  · intro found
    unfold parameters? at found
    split at found
    case h_1 => exact ⟨by rw [cut?_eq_some found], not_mem_of_cut? found⟩
    case h_2 => cases found
  · rintro ⟨rfl, single⟩
    exact cut?_append single rest

theorem opener_read?_iff {t rest : Text} {opener : Opener} :
    Opener.read? t = some (opener, rest) ↔ t = opener.text ++ rest := by
  constructor
  · intro found
    obtain ⟨_, -, found⟩ := List.exists_of_findSome?_eq_some found
    obtain ⟨_, found, same⟩ := Option.map_eq_some_iff.mp found
    cases same
    exact after?_eq_some.mp found
  · rintro rfl
    cases opener <;> rfl

theorem read?_isSome_iff {t : Text} (oneLine : '\n' ∉ t) : (read? t).isSome = true ↔ Start t := by
  constructor
  · intro read
    obtain ⟨block, found⟩ := Option.isSome_iff_exists.mp read
    obtain ⟨⟨opener, rest⟩, opened, ends⟩ := Option.bind_eq_some_iff.mp found
    rw [opener_read?_iff] at opened
    subst opened
    have oneLine : '\n' ∉ rest := fun member => oneLine (List.mem_append_right _ member)
    obtain ⟨space, blank, whole⟩ := exists_trimStart rest
    dsimp only at ends
    split at ends
    case h_1 inner =>
      obtain ⟨⟨names, tail⟩, parameters, inner⟩ := Option.bind_eq_some_iff.mp inner
      obtain ⟨start, single⟩ := parameters?_iff.mp parameters
      obtain ⟨_, inner, -⟩ := Option.bind_eq_some_iff.mp inner
      have oneLine : '\n' ∉ tail := by
        rw [whole, start] at oneLine
        exact fun member => oneLine (by simp [member])
      rw [whole, start]
      exact .parameters opener blank single (tail_of_readTail? oneLine (by rw [inner]; rfl))
    case h_2 =>
      obtain ⟨_, inner, -⟩ := Option.bind_eq_some_iff.mp ends
      refine .plain opener (tail_of_readTail? oneLine ?_)
      rw [whole, readTail?_append_blank blank, inner]
      rfl
  · rintro (⟨opener, tail⟩ | ⟨opener, blank, single, tail⟩)
    · rename_i rest
      have ends := isSome_readTail? (fun member => oneLine (List.mem_append_right _ member)) tail
      obtain ⟨space, blank, whole⟩ := exists_trimStart rest
      rw [whole, readTail?_append_blank blank] at ends
      obtain ⟨last, ends⟩ := Option.isSome_iff_exists.mp ends
      rw [read?, opener_read?_iff.mpr rfl]
      dsimp only [Option.bind_eq_bind, Option.bind_some]
      split
      · rfl
      · rw [ends]
        rfl
    · rename_i space names rest
      have ends := isSome_readTail? (fun member => oneLine (by simp [member])) tail
      obtain ⟨last, ends⟩ := Option.isSome_iff_exists.mp ends
      rw [read?, opener_read?_iff.mpr rfl]
      dsimp only [Option.bind_eq_bind, Option.bind_some]
      rw [trimStart_append_allBlank blank, trimStart_of_solid (by decide), parameters?_iff.mpr ⟨rfl, single⟩]
      dsimp only [Option.bind_some]
      rw [ends]
      rfl

theorem Start.head {t : Text} (start : Start t) : ∃ c rest, t = c :: rest ∧ (c = 'd' ∨ c = '\x7b') := by
  rcases start with ⟨opener, _⟩ | ⟨opener, _, _, _⟩
  all_goals
    cases opener
    · exact ⟨'d', _, rfl, .inl rfl⟩
    · exact ⟨'\x7b', _, rfl, .inr rfl⟩

end BlockStart

namespace StepDeclaration

inductive Ending : Text → Prop
  | bare {space rest : Text} (blank : allBlank space = true) (start : BlockStart.Start rest) :
      Ending (space ++ rest)
  | parenthesis {space gap rest : Text} (blank : allBlank space = true) (spaced : allBlank gap = true)
      (start : BlockStart.Start rest) : Ending (space ++ ')' :: (gap ++ rest))

theorem blockAfter?_isSome_iff {t : Text} (oneLine : '\n' ∉ t) : (blockAfter? t).isSome = true ↔ Ending t := by
  constructor
  · intro read
    obtain ⟨space, blank, whole⟩ := exists_trimStart t
    unfold blockAfter? at read
    dsimp only at read
    cases closed : after? ")" (trimStart t) with
    | none =>
        rw [closed, Option.getD_none, trimStart_trimStart] at read
        rw [whole] at oneLine ⊢
        have single : '\n' ∉ trimStart t := fun member => oneLine (List.mem_append_right _ member)
        exact .bare blank ((BlockStart.read?_isSome_iff single).mp read)
    | some rest =>
        rw [closed, Option.getD_some] at read
        obtain ⟨gap, spaced, inner⟩ := exists_trimStart rest
        rw [whole, after?_eq_some.mp closed, inner] at oneLine ⊢
        have single : '\n' ∉ trimStart rest := fun member => oneLine (by simp [member])
        change Ending (space ++ ')' :: (gap ++ trimStart rest))
        exact .parenthesis blank spaced ((BlockStart.read?_isSome_iff single).mp read)
  · rintro (⟨blank, start⟩ | ⟨blank, spaced, start⟩)
    · rename_i space rest
      have read := (BlockStart.read?_isSome_iff fun member => oneLine (List.mem_append_right _ member)).mpr start
      obtain ⟨c, _, rfl, first⟩ := start.head
      have other : isBlank c = false ∧ ')' ≠ c := by rcases first with rfl | rfl <;> decide
      have closed (t : Text) : after? ")" (c :: t) = none := if_neg other.2
      rwa [blockAfter?, trimStart_append_allBlank blank, trimStart_of_solid other.1, closed, Option.getD_none,
        trimStart_of_solid other.1]
    · rename_i space gap rest
      have read := (BlockStart.read?_isSome_iff fun member => oneLine (by simp [member])).mpr start
      obtain ⟨c, _, rfl, first⟩ := start.head
      have solid : isBlank c = false := by rcases first with rfl | rfl <;> decide
      have closed (t : Text) : after? ")" (')' :: t) = some t := rfl
      rwa [blockAfter?, trimStart_append_allBlank blank, trimStart_of_solid (by decide), closed, Option.getD_some,
        trimStart_append_allBlank spaced, trimStart_of_solid solid]

/-- The text is a slash that can end a regular expression, and what follows it. -/
def EndsRegex (t : Text) : Prop :=
  ∃ flags rest, t = '/' :: (flags ++ rest) ∧ (∀ c ∈ flags, isFlag c = true) ∧ Ending rest

theorem Ending.head {t : Text} (ending : Ending t) : ∃ c rest, t = c :: rest ∧ isFlag c = false := by
  have flagless {c : Char} (blank : isBlank c = true) : isFlag c = false := by
    rw [← Bool.not_eq_true]
    intro flag
    simp only [isFlag, Bool.or_eq_true, decide_eq_true_eq] at flag
    rcases flag with ((rfl | rfl) | rfl) | rfl <;> revert blank <;> decide
  have spaced {space rest : Text} (blank : allBlank space = true)
      (solid : ∃ c after, rest = c :: after ∧ isFlag c = false) :
      ∃ c after, space ++ rest = c :: after ∧ isFlag c = false := by
    cases space with
    | nil => exact solid
    | cons c space =>
        exact ⟨c, space ++ rest, rfl, flagless (List.all_eq_true.mp blank c List.mem_cons_self)⟩
  rcases ending with ⟨blank, start⟩ | ⟨blank, _, _⟩
  · obtain ⟨c, rest, rfl, first⟩ := start.head
    exact spaced blank ⟨c, rest, rfl, by rcases first with rfl | rfl <;> decide⟩
  · exact spaced blank ⟨')', _, rfl, by decide⟩

theorem endsRegex_iff {t : Text} (oneLine : '\n' ∉ t) :
    EndsRegex ('/' :: t) ↔ (blockAfter? (t.drop (t.takeWhile isFlag).length)).isSome = true := by
  constructor
  · rintro ⟨flags, rest, same, flagged, ending⟩
    obtain rfl := (List.cons.inj same).2
    obtain ⟨c, after, rfl, unflagged⟩ := ending.head
    have run : (flags ++ c :: after).takeWhile isFlag = flags := by
      rw [List.takeWhile_append_of_pos flagged, List.takeWhile_cons_of_neg (by simp [unflagged]),
        List.append_nil]
    rw [run, List.drop_left]
    exact (blockAfter?_isSome_iff fun member => oneLine (List.mem_append_right _ member)).mpr ending
  · intro read
    refine ⟨t.takeWhile isFlag, t.drop (t.takeWhile isFlag).length, ?_, fun c => List.mem_takeWhile_imp, ?_⟩
    · rw [List.prefix_iff_eq_append.mp (List.takeWhile_prefix _)]
    · exact (blockAfter?_isSome_iff fun member => oneLine (List.mem_of_mem_drop member)).mp read

/-- No slash in the text can end a regular expression. -/
def Unended (t : Text) : Prop := ∀ lead rest, t = lead ++ rest → ¬EndsRegex rest

/-- What stands before the last slash in the text that can end a regular expression. -/
structure LastEnd (t lead : Text) : Prop where
  ends : ∃ rest, t = lead ++ rest ∧ EndsRegex rest
  last : ∀ other rest, t = other ++ rest → EndsRegex rest → other.length ≤ lead.length

theorem Unended.cons {c : Char} {t : Text} (unended : Unended t) (first : ¬EndsRegex (c :: t)) :
    Unended (c :: t) := by
  intro lead rest split
  cases lead with
  | nil =>
      rw [List.nil_append] at split
      exact split ▸ first
  | cons d lead => exact unended lead rest (List.cons.inj split).2

theorem Unended.lastEnd {c : Char} {t : Text} (unended : Unended t) (ends : EndsRegex (c :: t)) :
    LastEnd (c :: t) [] := by
  refine ⟨⟨c :: t, rfl, ends⟩, fun other rest split ends' => ?_⟩
  cases other with
  | nil => exact Nat.le_refl 0
  | cons d other => exact absurd ends' (unended other rest (List.cons.inj split).2)

theorem LastEnd.unique {t lead lead' : Text} (here : LastEnd t lead) (there : LastEnd t lead') : lead = lead' := by
  obtain ⟨rest, whole, ends⟩ := here.ends
  obtain ⟨rest', whole', ends'⟩ := there.ends
  have length : lead.length = lead'.length :=
    Nat.le_antisymm (there.last lead rest whole ends) (here.last lead' rest' whole' ends')
  exact (List.append_inj (whole.symm.trans whole') length).1

theorem LastEnd.append {t lead : Text} (last : LastEnd t lead) (before : Text) :
    LastEnd (before ++ t) (before ++ lead) := by
  obtain ⟨rest, whole, ends⟩ := last.ends
  refine ⟨⟨rest, by rw [whole, List.append_assoc], ends⟩, fun other rest' split ends' => ?_⟩
  rw [List.length_append]
  rcases List.append_eq_append_iff.mp split with ⟨more, rfl, inner⟩ | ⟨_, rfl, -⟩
  · have := last.last more rest' inner ends'
    rw [List.length_append]
    omega
  · rw [List.length_append]
    omega

theorem regexSource?_spec {t : Text} (oneLine : '\n' ∉ t) :
    (regexSource? t = none → Unended t) ∧
      ∀ source rest, regexSource? t = some (source, rest) → LastEnd t source := by
  induction t with
  | nil =>
      refine ⟨?_, fun _ _ found => by cases found⟩
      rintro - lead rest none ⟨_, _, rfl, -⟩
      simp at none
  | cons c t ih =>
      obtain ⟨other, later⟩ := List.ne_and_not_mem_of_not_mem_cons oneLine
      obtain ⟨unended, ended⟩ := ih later
      rw [regexSource?, if_neg (Ne.symm other)]
      cases inner : regexSource? t with
      | some found =>
          refine ⟨by simp, ?_⟩
          rintro source rest ⟨⟩
          exact (ended _ _ inner).append [c]
      | none =>
          -- The rest of the line is read first, so a slash ends the source only if none further on can.
          have below := unended inner
          dsimp only
          split
          case isTrue slash =>
            subst slash
            rw [Option.map_eq_none_iff, ← Option.not_isSome_iff_eq_none, ← endsRegex_iff later]
            refine ⟨below.cons, fun source rest found => ?_⟩
            obtain ⟨block, read, same⟩ := Option.map_eq_some_iff.mp found
            cases same
            exact below.lastEnd ((endsRegex_iff later).mpr (by rw [read]; rfl))
          case isFalse plain =>
            refine ⟨fun _ => below.cons ?_, by simp⟩
            rintro ⟨_, _, same, -⟩
            exact plain (List.cons.inj same).1

/-! ## Lines -/

theorem lastEnd_or_unended {t : Text} (oneLine : '\n' ∉ t) : (∃ lead, LastEnd t lead) ∨ Unended t := by
  obtain ⟨unended, ended⟩ := regexSource?_spec oneLine
  cases found : regexSource? t with
  | none => exact .inr (unended found)
  | some result => exact .inl ⟨_, ended _ _ found⟩

theorem Unended.append_flags {flags ending : Text} (flagged : ∀ c ∈ flags, isFlag c = true)
    (unended : Unended ending) : Unended (flags ++ ending) := by
  induction flags with
  | nil => exact unended
  | cons c flags ih =>
      obtain ⟨first, later⟩ := List.forall_mem_cons.mp flagged
      refine (ih later).cons ?_
      rintro ⟨_, _, same, -⟩
      rw [(List.cons.inj same).1] at first
      cases first

theorem afterAny?_keyword {indent keyword : Text} (indented : allBlank indent = true) (known : keyword ∈ keywords)
    (rest : Text) : afterAny? keywords (trimStart (indent ++ (keyword ++ rest))) = some (keyword, rest) := by
  rw [trimStart_append_allBlank indented]
  simp only [keywords, List.mem_cons, List.not_mem_nil, or_false] at known
  rcases known with rfl | rfl | rfl | rfl | rfl | rfl | rfl | rfl <;> rfl

/-- A line that declares a step definition by a regular expression. -/
structure RegexLine where
  indent : Text
  keyword : Text
  gap : Text
  opening : Text
  source : Text
  flags : Text
  ending : Text
  indented : allBlank indent = true
  known : keyword ∈ keywords
  spaced : allBlank gap = true
  opens : opening = [] ∨ ∃ space, allBlank space = true ∧ opening = '(' :: space
  flagged : ∀ c ∈ flags, isFlag c = true
  ends : Ending ending

namespace RegexLine

def rest (l : RegexLine) : Text := l.source ++ '/' :: (l.flags ++ l.ending)

def text (l : RegexLine) : Text := l.indent ++ (l.keyword ++ (l.gap ++ (l.opening ++ '/' :: l.rest)))

variable (l : RegexLine)

theorem read?_text : read? l.text = (regexSource? l.rest).map fun (source, flags, block) =>
    ⟨l.keyword, .regex source flags, block⟩ := by
  have source (t : Text) : source? ('/' :: t) =
      (regexSource? t).map fun (source, flags, block) => (.regex source flags, block) := rfl
  have slash (t : Text) : trimStart ('/' :: t) = '/' :: t := trimStart_of_solid (by decide) t
  have opened : trimStart ((after? "(" (trimStart (l.gap ++ (l.opening ++ '/' :: l.rest)))).getD
      (trimStart (l.gap ++ (l.opening ++ '/' :: l.rest)))) = '/' :: l.rest := by
    rw [trimStart_append_allBlank l.spaced]
    rcases l.opens with none | ⟨space, blank, some⟩
    · rw [none, List.nil_append, slash]
      exact slash _
    · rw [some, List.cons_append, trimStart_of_solid (by decide)]
      exact (trimStart_append_allBlank blank _).trans (slash _)
  rw [read?, text, afterAny?_keyword l.indented l.known]
  dsimp only [Option.bind_eq_bind, Option.bind_some]
  rw [opened, source]
  cases regexSource? l.rest <;> rfl

theorem lastEnd_rest :
    (Unended l.ending → LastEnd l.rest l.source) ∧
      ∀ lead, LastEnd l.ending lead → LastEnd l.rest (l.source ++ '/' :: (l.flags ++ lead)) := by
  constructor
  · intro unended
    have here : LastEnd ('/' :: (l.flags ++ l.ending)) [] :=
      (unended.append_flags l.flagged).lastEnd ⟨l.flags, l.ending, rfl, l.flagged, l.ends⟩
    simpa [rest] using here.append l.source
  · intro lead last
    have below := last.append (l.source ++ '/' :: l.flags)
    simpa [rest] using below

end RegexLine

end StepDeclaration

/-! ## Definitions -/

theorem Block.mem_split_append {line : Text} {declaration : Declaration}
    (declared : Declaration.read? line = some declaration) (before after : List Text) (n : Nat) :
    ∃ body, ⟨declaration, n + before.length, body⟩ ∈ split n (before ++ line :: after) := by
  induction before generalizing n with
  | nil =>
      rw [List.nil_append, split, declared]
      exact ⟨_, List.mem_cons_self⟩
  | cons first before ih =>
      obtain ⟨body, member⟩ := ih (n + 1)
      have place : n + 1 + before.length = n + (first :: before).length := by
        rw [List.length_cons]
        omega
      rw [place] at member
      refine ⟨body, ?_⟩
      rw [List.cons_append, split]
      split
      · exact List.mem_cons_of_mem _ member
      · exact member

namespace StepDefinition

variable {file : SourcePath} {t line : Text} {before after : List Text} {declaration : StepDeclaration}

theorem exists_mem_ofText (written : lines t = before ++ line :: after)
    (read : StepDeclaration.read? line = some declaration) :
    ∃ d ∈ ofText file t, d.card.location = ⟨file, before.length + 1⟩ := by
  obtain ⟨body, member⟩ := Block.mem_split_append (Declaration.read?_eq_step.mpr read) before after 1
  rw [Nat.add_comm, ← written] at member
  exact ⟨_, List.mem_filterMap.mpr ⟨_, member, rfl⟩, rfl⟩

theorem source_of_location {d : StepDefinition} (member : d ∈ ofText file t)
    (location : d.card.location = ⟨file, before.length + 1⟩) (written : lines t = before ++ line :: after)
    (read : StepDeclaration.read? line = some declaration) : d.source = declaration.source.text := by
  obtain ⟨before', line', after', declaration', written', read', rfl⟩ := mem_ofText_declared member
  have place : before'.length + 1 = before.length + 1 := congrArg Location.line location
  have same := List.append_inj (written'.symm.trans written) (Nat.add_right_cancel place)
  obtain ⟨rfl, -⟩ := List.cons.inj same.2
  rw [read] at read'
  cases read'
  rfl

open StepDeclaration

/-- The source of a definition that is declared by a regular expression is what stands between the slashes, unless a
slash further on could end the expression too. Then it goes on to the last one that can. -/
theorem ofText_regexLine (file : SourcePath) (l : RegexLine) {t : Text} {before after : List Text}
    (written : lines t = before ++ l.text :: after) :
    (∃ d ∈ ofText file t, d.card.location = ⟨file, before.length + 1⟩) ∧
      ∀ d ∈ ofText file t, d.card.location = ⟨file, before.length + 1⟩ →
        (d.source = l.source ↔ Unended l.ending) ∧
        ∀ lead, LastEnd l.ending lead → d.source = l.source ++ '/' :: (l.flags ++ lead) := by
  have oneLine : '\n' ∉ l.text := not_mem_of_mem_lines (t := t) (by simp [written])
  have inRest : '\n' ∉ l.rest := fun member => oneLine (by simp [RegexLine.text, member])
  have inEnding : '\n' ∉ l.ending := fun member => inRest (by simp [RegexLine.rest, member])
  obtain ⟨plain, further⟩ := l.lastEnd_rest
  obtain ⟨unended, ended⟩ := regexSource?_spec inRest
  cases found : regexSource? l.rest with
  | none =>
      exact absurd ⟨l.flags, l.ending, rfl, l.flagged, l.ends⟩
        (unended found l.source ('/' :: (l.flags ++ l.ending)) rfl)
  | some result =>
      obtain ⟨source, flags, block⟩ := result
      have here := ended _ _ found
      have read : read? l.text = some ⟨l.keyword, .regex source flags, block⟩ := by
        rw [l.read?_text, found]
        rfl
      refine ⟨exists_mem_ofText written read, fun d member location => ?_⟩
      rw [source_of_location member location written read]
      change (source = l.source ↔ _) ∧ ∀ lead, _ → source = _
      refine ⟨⟨fun same => ?_, fun none => here.unique (plain none)⟩,
        fun lead last => here.unique (further lead last)⟩
      refine (lastEnd_or_unended inEnding).resolve_left ?_
      rintro ⟨lead, last⟩
      have longer := here.unique (further lead last)
      rw [same] at longer
      simpa using congrArg List.length longer

/-- Slashes in the code of the block and in a comment. -/
def halfLine : RegexLine where
  indent := "  "
  keyword := "Given"
  gap := []
  opening := "("
  source := "^1\\/2 of (\\d+)$"
  flags := "ix"
  ending := ") \x7b |n| n / 2 \x7d # 1/2"
  indented := by decide
  known := by decide
  spaced := rfl
  opens := .inr ⟨[], rfl, rfl⟩
  flagged := List.all_eq_true.mp (by decide)
  ends := (blockAfter?_isSome_iff (by decide)).mp (by decide +kernel)

theorem ofText_regexLine_half :
    lines (join ['\n'] [halfLine.text]) = [] ++ halfLine.text :: [] ∧ Unended halfLine.ending ∧
      ∃ d ∈ ofText ⟨"half.rb"⟩ (join ['\n'] [halfLine.text]), d.source = "^1\\/2 of (\\d+)$".toList := by
  have written : lines (join ['\n'] [halfLine.text]) = [] ++ halfLine.text :: [] := by decide +kernel
  have unended : Unended halfLine.ending := (regexSource?_spec (by decide)).1 (by decide +kernel)
  obtain ⟨⟨d, member, location⟩, all⟩ := ofText_regexLine ⟨"half.rb"⟩ halfLine written
  exact ⟨written, unended, d, member, (all d member location).1.mpr unended⟩

/-- A regular expression in the code of the block, before a brace. -/
def tidyLine : RegexLine where
  indent := []
  keyword := "Given"
  gap := []
  opening := "("
  source := "^I tidy$"
  flags := []
  ending := ") \x7b |s| s.gsub(/-/) \x7b \"\" \x7d \x7d"
  indented := rfl
  known := by decide
  spaced := rfl
  opens := .inr ⟨[], rfl, rfl⟩
  flagged := List.forall_mem_nil _
  ends := (blockAfter?_isSome_iff (by decide)).mp (by decide +kernel)

/-- A comment that mentions a declaration. -/
def restLine : RegexLine where
  indent := []
  keyword := "When"
  gap := " "
  opening := []
  source := "^I rest$"
  flags := []
  ending := " do # as in /nap/ do"
  indented := rfl
  known := by decide
  spaced := by decide
  opens := .inl rfl
  flagged := List.forall_mem_nil _
  ends := (blockAfter?_isSome_iff (by decide)).mp (by decide +kernel)

/-- The sources go on to the last slash before something that can open a block. -/
theorem ofText_regexLine_reopened :
    lines (join ['\n'] [tidyLine.text, restLine.text, "end"]) = [tidyLine.text, restLine.text, "end"] ∧
      '/' ∉ tidyLine.source ∧ '/' ∉ restLine.source ∧
      (ofText ⟨"tidy.rb"⟩ (join ['\n'] [tidyLine.text, restLine.text, "end"])).map
          (fun d => (d.card.location.line, d.source)) =
        [(1, "^I tidy$/) \x7b |s| s.gsub(/-".toList), (2, "^I rest$/ do # as in /nap".toList)] := by
  exact ⟨by decide +kernel, by decide, by decide, by decide +kernel⟩

end StepDefinition

end SuiteAudit
