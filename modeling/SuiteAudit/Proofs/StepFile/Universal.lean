import SuiteAudit.Proofs.StepFile.NestedLines
import SuiteAudit.Proofs.StepFile.Pattern
import SuiteAudit.Proofs.StepFile.StringCalls
import SuiteAudit.Rule.Check

/-!
# Definitions that match every step

Whether a definition matches every step is judged by the source of its pattern: a repeated dot, with or without
anchors and parentheses around it. As a regular expression such a source matches every step, whatever its flags are,
unless it has only one of the parentheses; then it cannot be read and stands for itself. In quotes it stands for itself
always, and the definition matches one text only (`universalMatch_reported`).
-/

namespace SuiteAudit

open Text

/-! ## The sources -/

namespace Smell

theorem afterAny?_eq_some {heads : List Text} {t head rest : Text} (found : afterAny? heads t = some (head, rest)) :
    head ∈ heads ∧ t = head ++ rest := by
  obtain ⟨_, member, found⟩ := List.exists_of_findSome?_eq_some found
  obtain ⟨_, found, same⟩ := Option.map_eq_some_iff.mp found
  cases same
  exact ⟨member, after?_eq_some.mp found⟩

theorem exists_dropAny (heads : List Text) (t : Text) : ∃ head ∈ [] :: heads, t = head ++ dropAny heads t := by
  unfold dropAny
  cases found : afterAny? heads t with
  | none => exact ⟨[], List.mem_cons_self, rfl⟩
  | some cut =>
      obtain ⟨member, whole⟩ := afterAny?_eq_some found
      exact ⟨cut.1, List.mem_cons_of_mem _ member, whole⟩

/-- A repeated dot between optional anchors and parentheses. -/
structure Dots where
  start : Text
  opening : Text
  core : Text
  greed : Text
  closing : Text
  stop : Text
  starts : start ∈ [[], ['\\', 'A'], ['^']]
  opens : opening ∈ [[], ['(']]
  dotted : core ∈ [['.', '*'], ['.', '+']]
  greedy : greed ∈ [[], ['?']]
  closes : closing ∈ [[], [')']]
  stops : stop ∈ [[], ['$'], ['\\', 'z'], ['\\', 'Z']]

namespace Dots

def source (d : Dots) : Text := d.start ++ (d.opening ++ (d.core ++ (d.greed ++ (d.closing ++ d.stop))))

theorem exists_of_isUniversal {source : Text} (universal : isUniversal source = true) :
    ∃ d : Dots, d.source = source := by
  simp only [isUniversal] at universal
  obtain ⟨start, starts, first⟩ := exists_dropAny ["\\A", "^"] source
  obtain ⟨opening, opens, second⟩ := exists_dropAny ["("] (dropAny ["\\A", "^"] source)
  split at universal
  case h_2 => cases universal
  case h_1 core rest found =>
    obtain ⟨dotted, third⟩ := afterAny?_eq_some found
    obtain ⟨greed, greedy, fourth⟩ := exists_dropAny ["?"] rest
    obtain ⟨closing, closes, fifth⟩ := exists_dropAny [")"] (dropAny ["?"] rest)
    obtain ⟨stop, stops, sixth⟩ := exists_dropAny ["$", "\\z", "\\Z"] (dropAny [")"] (dropAny ["?"] rest))
    rw [List.isEmpty_iff.mp universal, List.append_nil] at sixth
    refine ⟨⟨start, opening, core, greed, closing, stop, starts, opens, dotted, greedy, closes, stops⟩, ?_⟩
    change start ++ (opening ++ (core ++ (greed ++ (closing ++ stop)))) = source
    rw [← sixth, ← fifth, ← fourth, ← third, ← second, ← first]

theorem mem_source (d : Dots) {c : Char} : c ∈ d.source ↔
    c ∈ d.start ∨ c ∈ d.opening ∨ c ∈ d.core ∨ c ∈ d.greed ∨ c ∈ d.closing ∨ c ∈ d.stop := by
  simp [source]

theorem not_mem_part {choices : List Text} {part : Text} (among : part ∈ choices) {c : Char}
    (none : c ∉ choices.flatten) : c ∉ part := fun member => none (List.mem_flatten.mpr ⟨part, among, member⟩)

theorem open_mem_source (d : Dots) : '(' ∈ d.source ↔ d.opening = ['('] := by
  have opens : '(' ∈ d.opening ↔ d.opening = ['('] := by
    rcases List.mem_pair.mp d.opens with opening | opening <;> simp [opening]
  rw [mem_source, opens]
  simp [not_mem_part d.starts (c := '(') (by decide), not_mem_part d.dotted (c := '(') (by decide),
    not_mem_part d.greedy (c := '(') (by decide), not_mem_part d.closes (c := '(') (by decide),
    not_mem_part d.stops (c := '(') (by decide)]

theorem close_mem_source (d : Dots) : ')' ∈ d.source ↔ d.closing = [')'] := by
  have closes : ')' ∈ d.closing ↔ d.closing = [')'] := by
    rcases List.mem_pair.mp d.closes with closing | closing <;> simp [closing]
  rw [mem_source, closes]
  simp [not_mem_part d.starts (c := ')') (by decide), not_mem_part d.opens (c := ')') (by decide),
    not_mem_part d.dotted (c := ')') (by decide), not_mem_part d.greedy (c := ')') (by decide),
    not_mem_part d.stops (c := ')') (by decide)]

theorem braceless (d : Dots) : '\x7b' ∉ d.source := by
  rw [mem_source]
  simp [not_mem_part d.starts (c := '\x7b') (by decide), not_mem_part d.opens (c := '\x7b') (by decide),
    not_mem_part d.dotted (c := '\x7b') (by decide), not_mem_part d.greedy (c := '\x7b') (by decide),
    not_mem_part d.closes (c := '\x7b') (by decide), not_mem_part d.stops (c := '\x7b') (by decide)]

end Dots

end Smell

/-! ## Flags -/

namespace Regex

/-- The flags that no flag behind a source can take away. -/
structure Flags.Usual (f : Flags) : Prop where
  perLine : f.perLine = false
  returns : f.returns = false
  unicode : f.unicode = true

theorem Flags.Usual.mem_dot {f : Flags} (usual : f.Usual) {c : Char} (other : c ≠ '\n') : f.dot.mem c = true := by
  unfold dot
  rw [usual.returns]
  split
  · rfl
  · rw [if_neg (by decide), CharSet.notLineFeed, CharSet.mem, Bool.not_eq_true', ← Bool.not_eq_true,
      CharSet.mem_single]
    exact other

end Regex

namespace Pattern

open Regex

/-- The flags in force in a regular expression with the given flags behind it. -/
def flagsOf (flags : Text) : Flags :=
  { caseless := flags.contains 'i', spaced := flags.contains 'x', dotAll := flags.contains 'm' }

theorem usual_flagsOf (flags : Text) : (flagsOf flags).Usual := ⟨rfl, rfl, rfl⟩

/-- The letters of the flags in front of a text. -/
def flagLetters (f : Flags) : Text :=
  (if f.caseless then ['i'] else []) ++ ((if f.spaced then ['x'] else []) ++ if f.dotAll then ['s'] else [])

theorem flagGroup_eq (flags : Text) :
    flagGroup flags = if flagLetters (flagsOf flags) = [] then [] else
      '(' :: '?' :: (flagLetters (flagsOf flags) ++ [')']) := by
  cases i : flags.contains 'i' <;> cases x : flags.contains 'x' <;> cases m : flags.contains 'm' <;>
    simp only [flagGroup, flagsOf, flagLetters, List.filterMap_cons, List.filterMap_nil, i, x, m] <;> rfl

theorem flags_of_letterless {i x m : Bool} (none : flagLetters { caseless := i, spaced := x, dotAll := m } = []) :
    ({ caseless := i, spaced := x, dotAll := m } : Flags) = {} := by
  cases i <;> cases x <;> cases m
  case false.false.false => rfl
  all_goals cases none

theorem readGroupStart_letters {i x m : Bool}
    (filled : flagLetters { caseless := i, spaced := x, dotAll := m } ≠ []) (rest : Text) :
    readGroupStart {} ('?' :: (flagLetters { caseless := i, spaced := x, dotAll := m } ++ ')' :: rest)) =
      some (.directive { caseless := i, spaced := x, dotAll := m }, rest) := by
  cases i <;> cases x <;> cases m
  case false.false.false => exact absurd rfl filled
  all_goals rfl

/-- The flags in front of a text are read first and then hold for all of it. -/
theorem read_flagGroup (flags : Text) :
    ∃ items, (∀ more, sequence (more ++ items) = sequence more) ∧ ∀ n rest, ∃ m, n ≤ m ∧
      Regex.read (n + (flagGroup flags).length) ⟨⟨{}, [], []⟩, [], []⟩ (flagGroup flags ++ rest) =
        Regex.read m ⟨⟨flagsOf flags, [], items⟩, [], []⟩ rest := by
  rw [flagGroup_eq]
  split
  case isTrue none =>
    refine ⟨[], fun more => by rw [List.append_nil], fun n rest => ⟨n, Nat.le_refl n, ?_⟩⟩
    rw [flagsOf, flags_of_letterless none]
    rfl
  case isFalse filled =>
    refine ⟨[.directive], sequence_append_directive,
      fun n rest => ⟨n + ((flagLetters (flagsOf flags)).length + 2), by omega, ?_⟩⟩
    have fuel : n + ('(' :: '?' :: (flagLetters (flagsOf flags) ++ [')'])).length =
        n + ((flagLetters (flagsOf flags)).length + 2) + 1 := by
      simp only [List.length_cons, List.length_append, List.length_nil]
      omega
    rw [fuel, List.cons_append, List.cons_append, List.append_assoc, List.singleton_append]
    exact read_directive (readGroupStart_letters filled rest) _ _ _ _ _

/-! ## Texts behind flags -/

variable {flags : Text}

/-- The flags and the expressions in front are read, with enough fuel left for the rest. -/
theorem ofText?_upto {t : Text} {rs : List Regex} (reads : Reads (flagsOf flags) t rs) {rest : Text}
    (plain : rest.head? ≠ some '?') :
    ∃ items n, (∀ more, sequence (more ++ items) = sequence more) ∧
      Regex.ofText? (flagGroup flags ++ (t ++ rest)) =
        Regex.read (n + rest.length + 1) ⟨⟨flagsOf flags, [], (rs.map Item.expr).reverse ++ items⟩, [], []⟩ rest := by
  obtain ⟨items, silent, start⟩ := read_flagGroup flags
  obtain ⟨m, enough, begun⟩ := start (rest.length + 1 + t.length) (t ++ rest)
  obtain ⟨n, rfl⟩ := Nat.exists_eq_add_of_le enough
  obtain ⟨m, enough, read⟩ := reads.steps (rest.length + 1 + n) [] items [] [] rest plain
  obtain ⟨n', rfl⟩ := Nat.exists_eq_add_of_le enough
  have fuel : (flagGroup flags ++ (t ++ rest)).length + 1 = rest.length + 1 + t.length + (flagGroup flags).length := by
    simp only [List.length_append]
    omega
  have left : rest.length + 1 + n + n' = n + n' + rest.length + 1 := by omega
  refine ⟨items, n + n', silent, ?_⟩
  rw [Regex.ofText?, fuel, begun, Nat.add_right_comm, read, left]

theorem ofText?_flagged {t : Text} {rs : List Regex} (reads : Reads (flagsOf flags) t rs) :
    Regex.ofText? (flagGroup flags ++ t) = some (seqs rs) := by
  have plain : ([] : Text).head? ≠ some '?' := by simp
  obtain ⟨items, n, silent, read⟩ := ofText?_upto reads plain
  rw [List.append_nil, Regex.read, Flags.next_nil] at read
  rw [read, ← sequence_reverse, ← silent]
  rfl

theorem ofText?_unclosed {t u : Text} {rs ss : List Regex} (before : Reads (flagsOf flags) t rs)
    (inside : Reads (flagsOf flags) u ss) : Regex.ofText? (flagGroup flags ++ (t ++ '(' :: u)) = none := by
  have plain : ('(' :: u).head? ≠ some '?' := by simp
  obtain ⟨items, n, -, outside⟩ := ofText?_upto before plain
  obtain ⟨m, enough, within⟩ := inside.steps (n + 1) [] [] [⟨flagsOf flags, [], _⟩] [] [] (by simp)
  obtain ⟨k, rfl⟩ := Nat.exists_eq_add_of_le' (Nat.le_trans (Nat.le_add_left 1 n) enough)
  rw [List.append_nil, Nat.add_right_comm] at within
  rw [outside, List.length_cons, read_open inside.start, ← Nat.add_assoc, within, Regex.read, Flags.next_nil]
  rfl

theorem ofText?_unopened {t : Text} {rs : List Regex} (before : Reads (flagsOf flags) t rs) (rest : Text) :
    Regex.ofText? (flagGroup flags ++ (t ++ ')' :: rest)) = none := by
  have plain : (')' :: rest).head? ≠ some '?' := by simp
  obtain ⟨items, n, -, outside⟩ := ofText?_upto before plain
  rw [outside, Regex.read, Flags.next_cons fun _ => by decide]
  rfl

theorem adapt_cons {c : Char} (other : c ≠ '\\') (t : Text) : adapt (c :: t) = c :: adapt t := by
  rw [adapt.eq_def]
  split
  case h_1 none => cases none
  case h_2 found => exact absurd (List.cons.inj found).1 other
  case h_3 found => exact absurd (List.cons.inj found).1 other
  case h_4 found =>
    obtain ⟨rfl, rfl⟩ := List.cons.inj found
    rfl

theorem adapt_append {t : Text} (unescaped : '\\' ∉ t) (u : Text) : adapt (t ++ u) = t ++ adapt u := by
  induction t with
  | nil => rfl
  | cons c t ih =>
      obtain ⟨other, later⟩ := not_or.mp (List.mem_cons.not.mp unescaped)
      rw [List.cons_append, adapt_cons (Ne.symm other), ih later, List.cons_append]

end Pattern

/-! ## Reading the sources -/

namespace Smell.Dots

open Regex Pattern

variable (d : Dots) {f : Flags}

theorem adapt_source :
    adapt d.source = d.start ++ (d.opening ++ (d.core ++ (d.greed ++ (d.closing ++ adapt d.stop)))) := by
  have start (u : Text) : adapt (d.start ++ u) = d.start ++ adapt u := by
    have starts := d.starts
    simp only [List.mem_cons, List.not_mem_nil, or_false] at starts
    rcases starts with start | start | start <;> rw [start] <;> rfl
  rw [source, start, adapt_append (not_mem_part d.opens (by decide)), adapt_append (not_mem_part d.dotted (by decide)),
    adapt_append (not_mem_part d.greedy (by decide)), adapt_append (not_mem_part d.closes (by decide))]

theorem reads_start (usual : f.Usual) :
    ∃ rs, Reads f d.start rs ∧ ∀ m, Matches (seqs rs) [] [] m := by
  have first (m : Text) : Matches (seqs [.place .textStart]) [] [] m := matches_seqs_singleton.mpr (.place rfl)
  have starts := d.starts
  simp only [List.mem_cons, List.not_mem_nil, or_false] at starts
  rcases starts with start | start | start <;> rw [start]
  · exact ⟨[], reads_nil, fun m => .empty⟩
  · exact ⟨_, (readsOnce_assertion fun _ => rfl).reads, first⟩
  · exact ⟨_, (readsOnce_caret usual.perLine).reads, first⟩

theorem reads_core (usual : f.Usual) :
    ∃ r, Reads f (d.core ++ d.greed) [r] ∧
      ∀ before m after, m ≠ [] → '\n' ∉ m → Matches r before m after := by
  have dot := readsOnce_dot usual.unicode
  have all {m : Text} (single : '\n' ∉ m) : ∀ c ∈ m, f.dot.mem c = true := by
    intro c member
    refine usual.mem_dot ?_
    rintro rfl
    exact single member
  have star (before m after : Text) (_ : m ≠ []) (single : '\n' ∉ m) :
      Matches (.star (.char f.dot)) before m after := (denotes_star_char _ _ _ _).mpr (all single)
  have plus (before m after : Text) (filled : m ≠ []) (single : '\n' ∉ m) :
      Matches (plus (.char f.dot)) before m after := (denotes_plus_char _ _ _ _).mpr ⟨filled, all single⟩
  rcases List.mem_pair.mp d.dotted with core | core <;> rcases List.mem_pair.mp d.greedy with greed | greed <;>
    rw [core, greed]
  · exact ⟨_, dot.star, star⟩
  · exact ⟨_, dot.lazily repeats_star, star⟩
  · exact ⟨_, dot.plus, plus⟩
  · exact ⟨_, dot.lazily repeats_plus, plus⟩

theorem reads_stop (usual : f.Usual) :
    ∃ rs, Reads f (adapt d.stop) rs ∧ ∀ before, Matches (seqs rs) before [] [] := by
  have last (before : Text) : Matches (seqs [.place .textEnd]) before [] [] := matches_seqs_singleton.mpr (.place rfl)
  have stops := d.stops
  simp only [List.mem_cons, List.not_mem_nil, or_false] at stops
  rcases stops with stop | stop | stop | stop <;> rw [stop]
  · exact ⟨[], reads_nil, fun m => .empty⟩
  · exact ⟨_, (readsOnce_dollar usual.perLine).reads, last⟩
  · exact ⟨_, (readsOnce_assertion fun _ => rfl).reads, last⟩
  · exact ⟨_, (readsOnce_assertion fun _ => rfl).reads, last⟩

/-- With both parentheses or none, the source is read as an expression that matches every text on one line. -/
theorem reads_source (usual : f.Usual) (balanced : d.opening = ['('] ↔ d.closing = [')']) :
    ∃ rs, Reads f (adapt d.source) rs ∧ ∀ m, m ≠ [] → '\n' ∉ m → Matches (seqs rs) [] m [] := by
  obtain ⟨start, readsStart, matchesStart⟩ := d.reads_start usual
  obtain ⟨r, readsCore, matchesCore⟩ := d.reads_core usual
  obtain ⟨stop, readsStop, matchesStop⟩ := d.reads_stop usual
  have matched {r : Regex} (core : ∀ before m after, m ≠ [] → '\n' ∉ m → Matches r before m after) (m : Text)
      (filled : m ≠ []) (single : '\n' ∉ m) : Matches (seqs (start ++ ([r] ++ stop))) [] m [] := by
    refine matches_seqs_append.mpr (matches_seq.mpr ⟨[], m, rfl, matchesStart _, ?_⟩)
    refine matches_seqs_append.mpr (matches_seq.mpr ⟨m, [], (List.append_nil m).symm, ?_, matchesStop _⟩)
    exact matches_seqs_singleton.mpr (core _ m _ filled single)
  rw [adapt_source]
  rcases List.mem_pair.mp d.opens with opening | opening
  · have closing : d.closing = [] :=
      (List.mem_pair.mp d.closes).resolve_right fun closing => by simp [balanced.mpr closing] at opening
    refine ⟨_, ?_, matched matchesCore⟩
    have reads := readsStart.append (readsCore.append readsStop)
    simpa [opening, closing] using reads
  · have closing := balanced.mp opening
    refine ⟨_, ?_, matched fun before m after filled single =>
      matches_seqs_singleton.mpr (matchesCore before m after filled single)⟩
    have reads := readsStart.append (readsCore.group.append readsStop)
    simpa [opening, closing] using reads

theorem ofText?_unbalanced (flags : Text) (unbalanced : ¬(d.opening = ['('] ↔ d.closing = [')'])) :
    Regex.ofText? (flagGroup flags ++ adapt d.source) = none := by
  obtain ⟨start, readsStart, -⟩ := d.reads_start (usual_flagsOf flags)
  obtain ⟨r, readsCore, -⟩ := d.reads_core (usual_flagsOf flags)
  obtain ⟨stop, readsStop, -⟩ := d.reads_stop (usual_flagsOf flags)
  rw [adapt_source]
  rcases List.mem_pair.mp d.opens with opening | opening <;> rcases List.mem_pair.mp d.closes with closing | closing
  · exact absurd (by simp [opening, closing]) unbalanced
  · have unread := ofText?_unopened (readsStart.append readsCore) (adapt d.stop)
    simpa [opening, closing] using unread
  · have unread := ofText?_unclosed readsStart (readsCore.append readsStop)
    simpa [opening, closing] using unread
  · exact absurd (by simp [opening, closing]) unbalanced

end Smell.Dots

namespace Pattern

theorem isMatch_literal {t m : Text} : (literal t).isMatch m = true ↔ m = t := (Regex.denotes_literal t).isMatch_whole m

theorem ofRegex_balanced (d : Smell.Dots) (balanced : d.opening = ['('] ↔ d.closing = [')']) (flags : Text) {m : Text}
    (filled : m ≠ []) (single : '\n' ∉ m) : (ofRegex d.source flags).isMatch m = true := by
  obtain ⟨rs, reads, matched⟩ := d.reads_source (usual_flagsOf flags) balanced
  simp only [ofRegex, ofText?_flagged reads, isMatch]
  exact Regex.isMatch_iff.mpr ⟨[], m, [], by simp, matched m filled single⟩

theorem ofRegex_unbalanced (d : Smell.Dots) (unbalanced : ¬(d.opening = ['('] ↔ d.closing = [')'])) (flags : Text)
    {m : Text} : (ofRegex d.source flags).isMatch m = true ↔ m = d.source := by
  simp only [ofRegex, d.ofText?_unbalanced flags unbalanced, isMatch_literal]

end Pattern

/-! ## Definitions -/

namespace Check

theorem mem_violationIf {v : Violation} {b : Bool} {rule : RuleId} :
    v ∈ violationIf b rule ↔ b = true ∧ v = ⟨rule, none⟩ := by
  cases b <;> simp [violationIf]

theorem isUniversal_of_reported {c : Criteria} {d : StepDefinition} {detail : Option Text}
    (reported : ⟨.universalMatch, detail⟩ ∈ stepDefinition c d) : Smell.isUniversal d.source = true := by
  simp only [stepDefinition, List.mem_append, List.mem_flatMap, mem_violationIf] at reported
  rcases reported with (((((⟨-, other⟩ | ⟨-, other⟩) | ⟨_, -, inner⟩) | ⟨universal, -⟩) | ⟨_, -, inner⟩) |
    ⟨-, other⟩) | ⟨_, -, inner⟩
  case inl.inl.inl.inr => exact universal
  case inl.inl.inl.inl.inr => simp [nested, mem_violationIf] at inner
  case inl.inl.inr =>
    unfold bodyLine at inner
    split at inner
    · simp at inner
    · split at inner <;> simp [mem_violationIf] at inner
  case inr => simp [sleep, mem_violationIf] at inner
  all_goals cases other

end Check

/-- The source is a regular expression with both parentheses or none. -/
def StepSource.IsBalanced : StepSource → Prop
  | .regex source _ => '(' ∈ source ↔ ')' ∈ source
  | .quoted _ _ => False

namespace StepSource

instance : (source : StepSource) → Decidable source.IsBalanced
  | .regex source _ => inferInstanceAs (Decidable ('(' ∈ source ↔ ')' ∈ source))
  | .quoted _ _ => inferInstanceAs (Decidable False)

theorem pattern_balanced {source : StepSource} (universal : Smell.isUniversal source.text = true)
    (balanced : source.IsBalanced) {m : Text} (filled : m ≠ []) (single : '\n' ∉ m) :
    source.pattern.isMatch m = true := by
  obtain ⟨d, same⟩ := Smell.Dots.exists_of_isUniversal universal
  cases source with
  | quoted q e => exact balanced.elim
  | regex e flags =>
      obtain rfl : d.source = e := same
      exact Pattern.ofRegex_balanced d (by rwa [← d.open_mem_source, ← d.close_mem_source]) flags filled single

theorem pattern_unbalanced {source : StepSource} (universal : Smell.isUniversal source.text = true)
    (unbalanced : ¬source.IsBalanced) {m : Text} : source.pattern.isMatch m = true ↔ m = source.text := by
  obtain ⟨d, same⟩ := Smell.Dots.exists_of_isUniversal universal
  cases source with
  | quoted q e =>
      rw [pattern, (Pattern.decides_ofExpression _).isMatch_iff, Pattern.instance_of_braceless]
      rw [← same]
      exact d.braceless
  | regex e flags =>
      obtain rfl : d.source = e := same
      exact Pattern.ofRegex_unbalanced d (by rwa [← d.open_mem_source, ← d.close_mem_source]) flags

end StepSource

/-- A definition that is said to match every step is declared by a repeated dot. It matches every step if this is a
regular expression with both parentheses or none, and else it matches its own source and nothing else. -/
theorem StepDefinition.universalMatch_reported {file : SourcePath} {t : Text} {c : Criteria} {d : StepDefinition}
    (member : d ∈ ofText file t) (reported : ⟨.universalMatch, none⟩ ∈ Check.stepDefinition c d) :
    ∃ before line rest declaration, lines t = before ++ line :: rest ∧
      StepDeclaration.read? line = some declaration ∧ d.card.location = ⟨file, before.length + 1⟩ ∧
      d.source = declaration.source.text ∧
      ((∀ s : Draft.Step, d.isMatch s.line = true) ↔ declaration.source.IsBalanced) ∧
      (¬declaration.source.IsBalanced → ∀ step, d.isMatch step = true ↔ Line.stepText step = d.source) := by
  have universal := Check.isUniversal_of_reported reported
  obtain ⟨before, line, rest, declaration, split, declared, rfl⟩ := mem_ofText_declared member
  change Smell.isUniversal declaration.source.text = true at universal
  have own (unbalanced : ¬declaration.source.IsBalanced) (step : Text) :
      declaration.source.pattern.isMatch (Line.stepText step) = true ↔
        Line.stepText step = declaration.source.text := StepSource.pattern_unbalanced universal unbalanced
  refine ⟨before, line, rest, declaration, split, declared, rfl, rfl, ⟨fun every => ?_, fun balanced s => ?_⟩, own⟩
  · by_contra unbalanced
    let s : Draft.Step := ⟨⟨['a'], by decide, by decide⟩, .given, by decide⟩
    have text := (own unbalanced s.line).mp (every s)
    rw [s.stepText_line] at text
    rw [← text] at universal
    exact absurd universal (by decide)
  · change declaration.source.pattern.isMatch (Line.stepText s.line) = true
    rw [s.stepText_line]
    exact StepSource.pattern_balanced universal balanced s.nonempty s.oneLine

/-- One definition with anchors, a group and flags. -/
def anyRide : Text := "When /\\A(.+?)\\Z/ix do |ride|\ntake ride\nend"

theorem StepDefinition.universalMatch_reported_ride :
    ∃ d ∈ ofText ⟨"ride.rb"⟩ anyRide, ⟨.universalMatch, none⟩ ∈ Check.stepDefinition ⟨Rule.standard, []⟩ d ∧
      ∀ s : Draft.Step, d.isMatch s.line = true := by
  have filled : (ofText ⟨"ride.rb"⟩ anyRide).isEmpty = false := by decide +kernel
  have reported : ∀ d ∈ ofText ⟨"ride.rb"⟩ anyRide,
      ⟨.universalMatch, none⟩ ∈ Check.stepDefinition ⟨Rule.standard, []⟩ d := by decide +kernel
  have balanced : ∀ line ∈ lines anyRide, ∀ declaration ∈ StepDeclaration.read? line,
      declaration.source.IsBalanced := by decide +kernel
  obtain ⟨d, member⟩ := List.exists_mem_of_ne_nil _ (List.isEmpty_eq_false_iff.mp filled)
  obtain ⟨before, line, rest, declaration, split, declared, -, -, every, -⟩ :=
    universalMatch_reported member (reported d member)
  exact ⟨d, member, reported d member, every.mpr (balanced line (by simp [split]) declaration declared)⟩

/-- A repeated dot in quotes, and one behind a parenthesis that is not closed. -/
def anyBrew : Text := "Given \".*\" do\nbrew\nend\nWhen /(.*/ do\npour\nend\n"

/-- Both are said to match every step, and they do not match this one. -/
theorem StepDefinition.universalMatch_unmatched :
    (ofText ⟨"all.rb"⟩ anyBrew).map (fun d => (d.card.location.line,
        (Check.stepDefinition ⟨Rule.standard, []⟩ d).map Violation.rule, d.isMatch "Given a cup")) =
      [(1, [.universalMatch], false), (4, [.universalMatch], false)] := by
  decide +kernel

end SuiteAudit
