import SuiteAudit.Proofs.Text.Trim
import SuiteAudit.StepFile.Hook

/-!
# Declarations without the white space around them

A line declares the same with and without the white space around it (`StepDeclaration.read?_trim`,
`HookDeclaration.read?_trim`), whatever it has between its first word and the end of its block.
-/

namespace SuiteAudit

open Text

/-! ## The start of a block -/

namespace BlockStart

theorem isTail_trimEnd {t : Text} (oneLine : '\n' ∉ t) : isTail (trimEnd t) = isTail t := by
  unfold isTail
  rw [trimStart_trimEnd]
  rcases trimStart_cases t with empty | ⟨c, rest, found, solid⟩
  · rw [empty]
    rfl
  · have below : '\n' ∉ c :: rest := found ▸ not_mem_of_suffix (trimStart_suffix t) oneLine
    rw [found, trimEnd_cons_of_not_blank solid]
    by_cases comment : c = '#'
    · subst comment
      have kept : '\n' ∉ rest := fun member => below (List.mem_cons_of_mem _ member)
      have left : '\n' ∉ trimEnd rest := fun member => kept ((trimEnd_isPrefix rest).subset member)
      simp only [hasLineFeed_eq_false.mpr kept, hasLineFeed_eq_false.mpr left]
    · simp [comment]

theorem isClosingTail_trimEnd {t : Text} (oneLine : '\n' ∉ t) :
    isClosingTail (trimEnd t) = isClosingTail t := by
  unfold isClosingTail
  rw [trimStart_trimEnd]
  rcases trimStart_cases t with empty | ⟨c, rest, found, solid⟩
  · rw [empty]
    exact isTail_trimEnd oneLine
  · have below : '\n' ∉ c :: rest := found ▸ not_mem_of_suffix (trimStart_suffix t) oneLine
    rw [found, trimEnd_cons_of_not_blank solid]
    by_cases paren : c = ')'
    · subst paren
      exact isTail_trimEnd fun member => below (List.mem_cons_of_mem _ member)
    · simp [paren, isTail_trimEnd oneLine]

theorem inlineCode?_trimEnd {t : Text} (oneLine : '\n' ∉ t) :
    inlineCode? (trimEnd t) = inlineCode? t := by
  induction t with
  | nil => rfl
  | cons c t ih =>
      have below : '\n' ∉ t := fun member => oneLine (List.mem_cons_of_mem _ member)
      have rest := ih below
      rw [trimEnd_cons]
      split
      case isTrue both =>
        obtain ⟨blank, empty⟩ := Bool.and_eq_true_iff.mp both
        rw [List.isEmpty_iff.mp empty] at rest
        have brace : c ≠ '\x7d' := by
          rintro rfl
          cases blank
        simp [inlineCode?, ← rest, brace]
      case isFalse => simp only [inlineCode?, isClosingTail_trimEnd below, rest]

theorem readTail?_trimEnd {t : Text} (oneLine : '\n' ∉ t) : readTail? (trimEnd t) = readTail? t := by
  unfold readTail?
  rw [trimStart_trimEnd]
  rcases trimStart_cases t with empty | ⟨c, rest, found, solid⟩
  · rw [empty]
    rfl
  · have below : '\n' ∉ c :: rest := found ▸ not_mem_of_suffix (trimStart_suffix t) oneLine
    have kept : '\n' ∉ rest := fun member => below (List.mem_cons_of_mem _ member)
    have left : '\n' ∉ trimEnd rest := fun member => kept ((trimEnd_isPrefix rest).subset member)
    rw [found, trimEnd_cons_of_not_blank solid]
    by_cases comment : c = '#'
    · subst comment
      simp only [hasLineFeed_eq_false.mpr kept, hasLineFeed_eq_false.mpr left]
    · by_cases brace : c = '\x7d'
      · subst brace
        simp only [isClosingTail_trimEnd kept]
      · simp only [inlineCode?_trimEnd kept]

theorem parameters?_trimEnd (t : Text) :
    parameters? (trimEnd t) = (parameters? t).map fun s => (s.1, trimEnd s.2) := by
  cases t with
  | nil => rfl
  | cons c t =>
      by_cases bar : c = '|'
      · subst bar
        rw [trimEnd_cons_of_not_blank rfl]
        exact cut?_trimEnd rfl t
      · rw [trimEnd_cons]
        split <;> simp [parameters?, bar]

theorem parameters?_suffix {t parameters rest : Text}
    (found : parameters? t = some (parameters, rest)) : rest <:+ t := by
  unfold parameters? at found
  split at found
  · rename_i t
    have split := cut?_eq_some found
    exact ⟨'|' :: parameters ++ ['|'], by simp [split]⟩
  · cases found

end BlockStart

theorem Opener.read?_trimEnd (t : Text) :
    Opener.read? (trimEnd t) = (Opener.read? t).map fun s => (s.1, trimEnd s.2) :=
  findSome?_after?_trimEnd Opener.text (by decide) t

theorem BlockStart.read?_trimEnd {t : Text} (oneLine : '\n' ∉ t) :
    BlockStart.read? (trimEnd t) = BlockStart.read? t := by
  simp only [BlockStart.read?, Opener.read?_trimEnd]
  cases opened : Opener.read? t with
  | none => rfl
  | some s =>
      obtain ⟨opener, rest⟩ := s
      have after : '\n' ∉ trimStart rest :=
        not_mem_of_suffix ((trimStart_suffix rest).trans (findSome?_after?_suffix _ opened)) oneLine
      simp only [Option.map_some, Option.bind_some, Option.bind_eq_bind, trimStart_trimEnd,
        parameters?_trimEnd, readTail?_trimEnd after]
      cases barred : parameters? (trimStart rest) with
      | none => rfl
      | some s =>
          have inner : '\n' ∉ s.2 := not_mem_of_suffix (parameters?_suffix barred) after
          simp only [Option.map_some, Option.bind_some, readTail?_trimEnd inner]

/-! ## Step definitions -/

theorem Quoted.escaped?_eq_some {q : Char} {t content rest : Text}
    (found : Quoted.escaped? q t = some (content, rest)) : t = content ++ q :: rest := by
  fun_induction Quoted.escaped? q t generalizing content with
  | case1 => cases found
  | case2 => cases found
  | case3 d t _ ih =>
      obtain ⟨⟨inner, after⟩, below, same⟩ := Option.map_eq_some_iff.mp found
      cases same
      exact congrArg (fun t => '\\' :: d :: t) (ih below)
  | case4 t =>
      cases found
      rfl
  | case5 => cases found
  | case6 c t _ _ _ ih =>
      obtain ⟨⟨inner, after⟩, below, same⟩ := Option.map_eq_some_iff.mp found
      cases same
      exact congrArg (c :: ·) (ih below)

theorem Quoted.escaped?_trimEnd {q : Char} (solid : isBlank q = false) (quote : q ≠ '\\') (t : Text) :
    Quoted.escaped? q (trimEnd t) = (Quoted.escaped? q t).map fun s => (s.1, trimEnd s.2) := by
  have lone : Quoted.escaped? q ['\\'] = none := by simp [Quoted.escaped?, quote.symm]
  fun_induction Quoted.escaped? q t with
  | case1 => rfl
  | case2 t =>
      rw [trimEnd_cons_of_not_blank rfl, trimEnd_cons]
      split
      · exact lone
      · simp [Quoted.escaped?]
  | case3 d t other ih =>
      rw [trimEnd_cons_of_not_blank rfl, trimEnd_cons]
      split
      case isTrue both =>
        -- The escaped blank is at the end, so no quote closes the string in either text.
        rw [List.isEmpty_iff.mp (Bool.and_eq_true_iff.mp both).2] at ih
        have none : Quoted.escaped? q t = none := by simpa [Quoted.escaped?] using ih.symm
        rw [lone, none]
        rfl
      case isFalse =>
        simp only [Quoted.escaped?, other, if_false, ih, Option.map_map]
        rfl
  | case4 t other =>
      rw [trimEnd_cons_of_not_blank solid]
      simp [Quoted.escaped?, quote]
  | case5 t other =>
      cases t with
      | nil => exact lone
      | cons d t => exact absurd rfl (other d t rfl)
  | case6 c t other apart plain ih =>
      rw [trimEnd_cons]
      split
      case isTrue both =>
        rw [List.isEmpty_iff.mp (Bool.and_eq_true_iff.mp both).2] at ih
        have none : Quoted.escaped? q t = none := by simpa [Quoted.escaped?] using ih.symm
        rw [none]
        rfl
      case isFalse => simp [Quoted.escaped?, apart, plain, ih, Function.comp_def]

namespace StepDeclaration

theorem blockAfter?_trimEnd {t : Text} (oneLine : '\n' ∉ t) :
    blockAfter? (trimEnd t) = blockAfter? t := by
  simp only [blockAfter?]
  rw [trimStart_trimEnd, after?_getD_trimEnd rfl, trimStart_trimEnd]
  have rest := (trimStart_suffix _).trans ((after?_getD_suffix ")" _).trans (trimStart_suffix t))
  exact BlockStart.read?_trimEnd (not_mem_of_suffix rest oneLine)

theorem isBlank_of_isFlag {c : Char} (flag : isFlag c = true) : isBlank c = false := by
  simp only [isFlag, Bool.or_eq_true, decide_eq_true_eq] at flag
  rcases flag with ((rfl | rfl) | rfl) | rfl <;> rfl

theorem regexSource?_trimEnd {t : Text} (oneLine : '\n' ∉ t) :
    regexSource? (trimEnd t) = regexSource? t := by
  induction t with
  | nil => rfl
  | cons c t ih =>
      have below : '\n' ∉ t := fun member => oneLine (List.mem_cons_of_mem _ member)
      have rest := ih below
      rw [trimEnd_cons]
      split
      case isTrue both =>
        obtain ⟨blank, empty⟩ := Bool.and_eq_true_iff.mp both
        rw [List.isEmpty_iff.mp empty] at rest
        have slash : c ≠ '/' := by
          rintro rfl
          cases blank
        simp [regexSource?, ← rest, slash]
      case isFalse =>
        have flags : t.drop (t.takeWhile isFlag).length <:+ t := List.drop_suffix _ _
        simp only [regexSource?, rest, takeWhile_trimEnd fun c => isBlank_of_isFlag,
          drop_takeWhile_trimEnd fun c => isBlank_of_isFlag,
          blockAfter?_trimEnd (not_mem_of_suffix flags below)]

theorem source?_trimEnd {t : Text} (oneLine : '\n' ∉ t) : source? (trimEnd t) = source? t := by
  cases t with
  | nil => rfl
  | cons c t =>
      have below : '\n' ∉ t := fun member => oneLine (List.mem_cons_of_mem _ member)
      by_cases slash : c = '/'
      · subst slash
        rw [trimEnd_cons_of_not_blank rfl]
        simp only [source?, regexSource?_trimEnd below]
      · by_cases quote : c = '"' ∨ c = '\''
        · have solid : isBlank c = false := by rcases quote with rfl | rfl <;> rfl
          have other : c ≠ '\\' := by rcases quote with rfl | rfl <;> decide
          rw [trimEnd_cons_of_not_blank solid]
          simp only [source?, quote, if_true, Quoted.escaped?_trimEnd solid other]
          cases closed : Quoted.escaped? c t with
          | none => rfl
          | some s =>
              have suffix : s.2 <:+ t := ⟨s.1 ++ [c], by simp [Quoted.escaped?_eq_some closed]⟩
              have after := not_mem_of_suffix suffix below
              simp only [Option.map_some, Option.bind_eq_bind, Option.bind_some,
                blockAfter?_trimEnd after]
        · rw [trimEnd_cons]
          split <;> simp [source?, quote]

theorem read?_trim {line : Text} (oneLine : '\n' ∉ line) : read? (trim line) = read? line := by
  have keyword : afterAny? keywords (trimEnd (trimStart line)) =
      (afterAny? keywords (trimStart line)).map fun s => (s.1, trimEnd s.2) :=
    findSome?_after?_trimEnd id (by decide) (trimStart line)
  simp only [read?, trimStart_trim, keyword]
  cases declared : afterAny? keywords (trimStart line) with
  | none => rfl
  | some s =>
      have after : s.2 <:+ line := (findSome?_after?_suffix id declared).trans (trimStart_suffix line)
      have source := (trimStart_suffix _).trans
        ((after?_getD_suffix "(" _).trans ((trimStart_suffix s.2).trans after))
      have opened (t : Text) : (after? "(" (trimEnd t)).getD (trimEnd t) =
          trimEnd ((after? "(" t).getD t) := after?_getD_trimEnd rfl t
      simp only [Option.map_some, Option.bind_eq_bind, Option.bind_some, trimStart_trimEnd, opened,
        source?_trimEnd (not_mem_of_suffix source oneLine)]

end StepDeclaration

/-! ## Hooks -/

theorem Quoted.plain?_trimEnd (t : Text) :
    Quoted.plain? (trimEnd t) = (Quoted.plain? t).map fun s => (s.1, trimEnd s.2) := by
  cases t with
  | nil => rfl
  | cons c t =>
      by_cases single : c = '\''
      · subst single
        rw [trimEnd_cons_of_not_blank rfl]
        simp only [Quoted.plain?, cut?_trimEnd (show isBlank '\'' = false from rfl), Option.map_map]
        rfl
      · by_cases double : c = '"'
        · subst double
          rw [trimEnd_cons_of_not_blank rfl]
          simp only [Quoted.plain?, cut?_trimEnd (show isBlank '"' = false from rfl), Option.map_map]
          rfl
        · rw [trimEnd_cons]
          split <;> simp [Quoted.plain?, single, double]

theorem Quoted.plain?_eq_some {t rest : Text} {s : Char × Text} (found : plain? t = some (s, rest)) :
    ∃ q content, isBlank q = false ∧ t = (content ++ [q]) ++ rest := by
  unfold plain? at found
  split at found
  · obtain ⟨⟨content, after⟩, closed, same⟩ := Option.map_eq_some_iff.mp found
    cases same
    exact ⟨'\'', '\'' :: content, rfl, by simp [cut?_eq_some closed]⟩
  · obtain ⟨⟨content, after⟩, closed, same⟩ := Option.map_eq_some_iff.mp found
    cases same
    exact ⟨'"', '"' :: content, rfl, by simp [cut?_eq_some closed]⟩
  · cases found

namespace HookDeclaration

theorem afterStrings?_eq_some {fuel : Nat} {t rest : Text} (found : afterStrings? fuel t = some rest) :
    ∃ q strings, isBlank q = false ∧ t = (strings ++ [q]) ++ rest := by
  induction fuel generalizing t rest with
  | zero => cases found
  | succ fuel ih =>
      obtain ⟨⟨s, after⟩, first, more⟩ := Option.bind_eq_some_iff.mp found
      obtain ⟨q, content, solid, split⟩ := Quoted.plain?_eq_some first
      have alone (same : some after = some rest) :
          ∃ q strings, isBlank q = false ∧ t = (strings ++ [q]) ++ rest := by
        cases same
        exact ⟨q, content, solid, split⟩
      dsimp only at more
      split at more
      case h_2 => exact alone more
      case h_1 comma =>
        rename_i later
        cases further : afterStrings? fuel (trimStart later) with
        | none => exact alone (by simpa [further] using more)
        | some after' =>
            obtain rfl : after' = rest := by simpa [further] using more
            obtain ⟨q', strings, solid', split'⟩ := ih further
            obtain ⟨blanks, start⟩ := trimStart_suffix later
            obtain ⟨blanks', start'⟩ := trimStart_suffix after
            refine ⟨q', content ++ [q] ++ blanks' ++ ',' :: blanks ++ strings, solid', ?_⟩
            rw [split, ← start', comma, ← start, split']
            simp

theorem afterStrings?_trimEnd (fuel : Nat) (t : Text) :
    afterStrings? fuel (trimEnd t) = (afterStrings? fuel t).map trimEnd := by
  induction fuel generalizing t with
  | zero => rfl
  | succ fuel ih =>
      simp only [afterStrings?, Quoted.plain?_trimEnd]
      cases Quoted.plain? t with
      | none => rfl
      | some s =>
          simp only [Option.map_some, Option.bind_eq_bind, Option.bind_some, trimStart_trimEnd]
          rcases trimStart_cases s.2 with empty | ⟨c, later, found, solid⟩
          · rw [empty]
            rfl
          · rw [found, trimEnd_cons_of_not_blank solid]
            by_cases comma : c = ','
            · subst comma
              simp only [trimStart_trimEnd, ih]
              cases afterStrings? fuel (trimStart later) <;> rfl
            · simp [comma]

/-- Once there is fuel for every character, more of it makes no difference. -/
theorem afterStrings?_fuel {m n : Nat} {t : Text} (left : t.length ≤ m) (right : t.length ≤ n) :
    afterStrings? m t = afterStrings? n t := by
  induction m generalizing n t with
  | zero =>
      obtain rfl : t = [] := List.length_eq_zero_iff.mp (Nat.le_zero.mp left)
      cases n <;> rfl
  | succ m ih =>
      cases n with
      | zero =>
          obtain rfl : t = [] := List.length_eq_zero_iff.mp (Nat.le_zero.mp right)
          rfl
      | succ n =>
          simp only [afterStrings?]
          cases first : Quoted.plain? t with
          | none => rfl
          | some s =>
              obtain ⟨q, content, -, split⟩ := Quoted.plain?_eq_some first
              have shorter := congrArg List.length split
              simp only [Option.bind_eq_bind, Option.bind_some]
              cases body : trimStart s.2 with
              | nil => rfl
              | cons c later =>
                  have rest := (trimStart_suffix s.2).length_le
                  have start := (trimStart_suffix later).length_le
                  rw [body] at rest
                  simp only [List.length_append, List.length_cons, List.length_nil] at shorter rest
                  by_cases comma : c = ','
                  · subst comma
                    have further : afterStrings? m (trimStart later) =
                        afterStrings? n (trimStart later) := ih (by omega) (by omega)
                    simp only [further]
                  · simp [comma]

theorem readFilter_of_bare {t body : Text} (start : trimStart t = body)
    (bare : body.head? ≠ some '(') :
    readFilter t = match if body.length < t.length then afterStrings? body.length body else none with
      | some rest => (.bare (body.take (body.length - rest.length)), rest)
      | none => (.none, t) := by
  rw [readFilter, start]
  split
  · simp at bare
  · rfl

theorem afterStrings?_length_trimEnd {c : Char} (solid : isBlank c = false) (inner : Text) :
    afterStrings? (c :: trimEnd inner).length (c :: trimEnd inner) =
      (afterStrings? (c :: inner).length (c :: inner)).map trimEnd := by
  rw [← afterStrings?_trimEnd, trimEnd_cons_of_not_blank solid]
  refine afterStrings?_fuel (Nat.le_refl _) ?_
  simpa using (trimEnd_isPrefix inner).length_le

/-- The strings end with a quote, so trimming leaves them as they are. -/
theorem take_afterStrings?_trimEnd {fuel : Nat} {t rest : Text}
    (read : afterStrings? fuel t = some rest) :
    (trimEnd t).take ((trimEnd t).length - (trimEnd rest).length) =
      t.take (t.length - rest.length) := by
  obtain ⟨q, strings, quote, rfl⟩ := afterStrings?_eq_some read
  have taken (strings after : Text) :
      (strings ++ after).take ((strings ++ after).length - after.length) = strings := by
    rw [List.length_append, Nat.add_sub_cancel, List.take_left]
  rw [trimEnd_append (by simpa using quote), taken, taken]

theorem length_trimStart_trimEnd_lt {c : Char} {t inner : Text} (found : trimStart t = c :: inner)
    (solid : isBlank c = false) :
    (c :: trimEnd inner).length < (trimEnd t).length ↔ (c :: inner).length < t.length := by
  obtain ⟨blanks, split⟩ := trimStart_suffix t
  rw [found] at split
  have last : (blanks ++ [c]).getLast?.any isBlank = false := by simpa using solid
  have whole : trimEnd t = blanks ++ c :: trimEnd inner := by
    simpa [← split] using trimEnd_append last inner
  rw [whole, ← split]
  simp

theorem readFilter_trimEnd (t : Text) :
    readFilter (trimEnd t) = ((readFilter t).1, trimEnd (readFilter t).2) := by
  have start := trimStart_trimEnd t
  rcases trimStart_cases t with empty | ⟨c, inner, found, solid⟩
  · have bare {t : Text} (blank : trimStart t = []) : readFilter t = (.none, t) := by
      simp [readFilter, blank, afterStrings?]
    rw [empty] at start
    rw [bare start, bare empty]
  · rw [found, trimEnd_cons_of_not_blank solid] at start
    by_cases paren : c = '('
    · subst paren
      simp only [readFilter, start, found, cut?_trimEnd (show isBlank ')' = false from rfl)]
      cases cut? ')' inner <;> rfl
    · have apart := length_trimStart_trimEnd_lt found solid
      rw [readFilter_of_bare start (by simpa using paren),
        readFilter_of_bare found (by simpa using paren), afterStrings?_length_trimEnd solid]
      by_cases spaced : (c :: inner).length < t.length
      · rw [if_pos spaced, if_pos (apart.mpr spaced)]
        cases read : afterStrings? (c :: inner).length (c :: inner) with
        | none => rfl
        | some rest =>
            have taken := take_afterStrings?_trimEnd read
            rw [trimEnd_cons_of_not_blank solid] at taken
            simp only [Option.map_some, taken]
      · rw [if_neg spaced, if_neg (mt apart.mp spaced)]

theorem readFilter_suffix (t : Text) : (readFilter t).2 <:+ t := by
  have start := trimStart_suffix t
  simp only [readFilter]
  split
  case h_1 inner found =>
    rw [found] at start
    cases closed : cut? ')' inner with
    | none => exact List.suffix_rfl
    | some s =>
        have split := cut?_eq_some closed
        exact List.IsSuffix.trans ⟨'(' :: s.1 ++ [')'], by simp [split]⟩ start
  case h_2 =>
    cases strings : (if (trimStart t).length < t.length then
        afterStrings? (trimStart t).length (trimStart t) else none) with
    | none => exact List.suffix_rfl
    | some rest =>
        split at strings
        · obtain ⟨q, read, -, split⟩ := afterStrings?_eq_some strings
          exact List.IsSuffix.trans ⟨read ++ [q], split.symm⟩ start
        · cases strings

theorem read?_trim {line : Text} (oneLine : '\n' ∉ line) : read? (trim line) = read? line := by
  simp only [read?, trimStart_trim, findSome?_after?_trimEnd HookKind.text (show ∀ k ∈ HookKind.all,
    k.text.getLast?.any isBlank = false by decide)]
  cases declared : HookKind.all.findSome? fun k =>
      (after? k.text (trimStart line)).map fun rest => (k, rest) with
  | none => rfl
  | some s =>
      have after : s.2 <:+ line :=
        (findSome?_after?_suffix HookKind.text declared).trans (trimStart_suffix line)
      have block := (trimStart_suffix _).trans ((readFilter_suffix s.2).trans after)
      simp only [Option.map_some, Option.bind_eq_bind, Option.bind_some, readFilter_trimEnd,
        trimStart_trimEnd, BlockStart.read?_trimEnd (not_mem_of_suffix block oneLine)]

end HookDeclaration

end SuiteAudit
