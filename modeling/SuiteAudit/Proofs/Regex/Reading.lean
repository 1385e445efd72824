import SuiteAudit.Proofs.Regex.Language
import SuiteAudit.Regex.Syntax

/-!
# Reading the text of an expression

A text that is put together from pieces is read piece by piece, if each is read in the same way whatever was read
before it and whatever comes after it (`Reads`): escaped characters, classes, repetitions and groups are. So the
pieces of a text spell what they denote, one after the other (`Spells`), and between anchors they match nothing else
(`Spells.ofText?_anchored`).
-/

namespace SuiteAudit.Regex

/-- Whether the character counts where the flags are in force. -/
def Flags.Counts (f : Flags) (c : Char) : Prop := f.spaced = true → Text.isBlank c = false ∧ c ≠ '#'

theorem Flags.next_nil (f : Flags) : f.next [] = [] := by
  cases spaced : f.spaced <;> simp [next, spaced, skipSpacing]

theorem Flags.next_cons {f : Flags} {c : Char} (counts : f.Counts c) (t : Text) : f.next (c :: t) = c :: t := by
  unfold next
  split
  case isTrue spaced =>
    obtain ⟨solid, other⟩ := counts spaced
    simp [skipSpacing, solid, other]
  case isFalse => rfl

theorem Flags.counts_of_unspaced {f : Flags} (unspaced : f.spaced = false) (c : Char) : f.Counts c := by
  intro spaced
  rw [unspaced] at spaced
  cases spaced

/-- Where the flags are in force, the text is read as the expressions, one after the other. A question mark behind it
could be taken for a part of a repetition at its end, so there must be none. -/
structure Reads (f : Flags) (t : Text) (rs : List Regex) : Prop where
  start : ∀ c ∈ t.head?, c ≠ '?' ∧ f.Counts c
  steps : ∀ (n : Nat) (branches : List Regex) (items : List Item) (outer : List Level) (names : List Text)
    (rest : Text), rest.head? ≠ some '?' →
    ∃ m, n ≤ m ∧ read (n + t.length) ⟨⟨f, branches, items⟩, outer, names⟩ (t ++ rest) =
      read m ⟨⟨f, branches, (rs.map Item.expr).reverse ++ items⟩, outer, names⟩ rest

section

variable {f : Flags}

theorem reads_nil : Reads f [] [] where
  start := by simp
  steps n _ _ _ _ _ _ := ⟨n, Nat.le_refl n, rfl⟩

theorem Reads.start_append {t : Text} {rs : List Regex} (reads : Reads f t rs) {rest : Text}
    (plain : ∀ c ∈ rest.head?, c ≠ '?' ∧ f.Counts c) : ∀ c ∈ (t ++ rest).head?, c ≠ '?' ∧ f.Counts c := by
  cases t with
  | nil => exact plain
  | cons c t => exact reads.start

theorem Reads.append {t u : Text} {rs ss : List Regex} (first : Reads f t rs) (second : Reads f u ss) :
    Reads f (t ++ u) (rs ++ ss) where
  start := first.start_append second.start
  steps n branches items outer names rest plain := by
    have next : (u ++ rest).head? ≠ some '?' := by
      cases u with
      | nil => exact plain
      | cons c u => exact fun head => (second.start '?' head).1 rfl
    obtain ⟨k, more, left⟩ := first.steps (n + u.length) branches items outer names (u ++ rest) next
    obtain ⟨extra, rfl⟩ := Nat.exists_eq_add_of_le more
    obtain ⟨m, enough, right⟩ :=
      second.steps (n + extra) branches ((rs.map Item.expr).reverse ++ items) outer names rest plain
    refine ⟨m, by omega, ?_⟩
    have fuel : n + (t ++ u).length = n + u.length + t.length := by
      rw [List.length_append]
      omega
    have pushed : ((rs ++ ss).map Item.expr).reverse ++ items =
        (ss.map Item.expr).reverse ++ ((rs.map Item.expr).reverse ++ items) := by simp
    rw [fuel, List.append_assoc, left, Nat.add_right_comm, right, pushed]

theorem reads_flatMap {α : Type} {g : α → Text} {h : α → List Regex} {xs : List α}
    (all : ∀ x ∈ xs, Reads f (g x) (h x)) : Reads f (xs.flatMap g) (xs.flatMap h) := by
  induction xs with
  | nil => exact reads_nil
  | cons x xs ih =>
      obtain ⟨head, tail⟩ := List.forall_mem_cons.mp all
      exact head.append (ih tail)

/-! ## Characters and classes -/

/-- One step of the reader reads the text as the expression. -/
structure ReadsOnce (f : Flags) (t : Text) (r : Regex) : Prop where
  start : ∃ c u, t = c :: u ∧ c ≠ '?' ∧ f.Counts c
  step : ∀ (n : Nat) (branches : List Regex) (items : List Item) (outer : List Level) (names : List Text)
    (rest : Text), read (n + 1) ⟨⟨f, branches, items⟩, outer, names⟩ (t ++ rest) =
      read n ⟨⟨f, branches, .expr r :: items⟩, outer, names⟩ rest

theorem ReadsOnce.reads {t : Text} {r : Regex} (once : ReadsOnce f t r) : Reads f t [r] := by
  obtain ⟨⟨c, u, rfl, other⟩, step⟩ := once
  constructor
  · rintro _ ⟨⟩
    exact other
  · intro n branches items outer names rest _
    exact ⟨n + u.length, Nat.le_add_right n _, step _ _ _ _ _ _⟩

/-- The characters that a dot stands for. -/
def Flags.dot (f : Flags) : CharSet :=
  if f.dotAll then CharSet.all
  else if f.returns then CharSet.compl (CharSet.ofText "\r\n") else CharSet.notLineFeed

theorem readsOnce_dot (unicode : f.unicode = true) : ReadsOnce f ['.'] (.char f.dot) := by
  refine ⟨⟨'.', [], rfl, by decide, fun _ => by decide⟩, fun n branches items outer names rest => ?_⟩
  rw [List.singleton_append, read, Flags.next_cons fun _ => by decide]
  exact if_pos unicode

/-- Outside brackets a hyphen needs no backslash. -/
theorem readsOnce_hyphen : ReadsOnce {} ['-'] (.char (.single '-')) :=
  ⟨⟨'-', [], rfl, by decide, fun _ => by decide⟩, fun _ _ _ _ _ _ => rfl⟩

theorem readsOnce_digit : ReadsOnce {} ['\\', 'd'] (.char .digit) :=
  ⟨⟨'\\', ['d'], rfl, by decide, fun _ => by decide⟩, fun _ _ _ _ _ _ => rfl⟩

theorem isMeta_iff {c : Char} :
    isMeta c = true ↔ c ∈ ['\\', '.', '+', '*', '?', '(', ')', '|', '[', ']', '\x7b', '\x7d', '^', '$', '#', '&',
      '-', '~'] := by
  have holds (t : Text) : Text.holds [c] t = true ↔ c ∈ t := by
    induction t with
    | nil => simp [Text.holds]
    | cons d t ih => simp [Text.holds, ih]
  exact holds _

theorem Flags.literal?_of_unicode (unicode : f.unicode = true) (c : Char) (byte : Bool) :
    f.literal? c byte = some (.char (f.fold (.single c))) := by
  simp [literal?, unicode]

theorem readsOnce_escaped (unicode : f.unicode = true) {c : Char} (special : isMeta c = true) :
    ReadsOnce f ['\\', c] (.char (f.fold (.single c))) := by
  have escape (rest : Text) : readEscape f (c :: rest) = some (.literal c false, rest) := by
    have among := isMeta_iff.mp special
    simp only [List.mem_cons, List.not_mem_nil, or_false] at among
    rcases among with rfl | rfl | rfl | rfl | rfl | rfl | rfl | rfl | rfl | rfl | rfl | rfl | rfl | rfl | rfl | rfl |
      rfl | rfl <;> rfl
  refine ⟨⟨'\\', [c], rfl, by decide, fun _ => by decide⟩, fun n branches items outer names rest => ?_⟩
  rw [List.cons_append, read, Flags.next_cons fun _ => by decide]
  change (readEscape f (c :: rest)).bind _ = _
  rw [escape, Option.bind_some]
  change (f.literal? c false).bind _ = _
  rw [f.literal?_of_unicode unicode]
  rfl

theorem readsOnce_plain (unicode : f.unicode = true) {c : Char} (counts : f.Counts c) (plain : isMeta c = false) :
    ReadsOnce f [c] (.char (f.fold (.single c))) := by
  have other {d : Char} (special : isMeta d = true) : c ≠ d := by
    rintro rfl
    rw [plain] at special
    cases special
  refine ⟨⟨c, [], rfl, other (by decide), counts⟩, fun n branches items outer names rest => ?_⟩
  -- None of the characters that mean something is this one, so only the last case is left.
  rw [List.singleton_append, read.eq_def]
  dsimp only
  rw [Flags.next_cons counts]
  split
  case h_14 found =>
    obtain ⟨rfl, rfl⟩ := List.cons.inj found
    rw [f.literal?_of_unicode unicode]
    rfl
  case h_1 found => cases found
  all_goals
    rename_i found
    exact absurd (List.cons.inj found).1 (other (by decide))

theorem reads_escape (unicode : f.unicode = true) (unspaced : f.spaced = false) (t : Text) :
    Reads f (escape t) (t.map fun c => .char (f.fold (.single c))) := by
  rw [List.map_eq_flatMap]
  refine reads_flatMap fun c _ => ?_
  split
  case isTrue special => exact (readsOnce_escaped unicode special).reads
  case isFalse plain =>
    exact (readsOnce_plain unicode (Flags.counts_of_unspaced unspaced c) (Bool.eq_false_iff.mpr plain)).reads

/-! ## Places -/

theorem readsOnce_caret (single : f.perLine = false) : ReadsOnce f ['^'] (.place .textStart) := by
  refine ⟨⟨'^', [], rfl, by decide, fun _ => by decide⟩, fun n branches items outer names rest => ?_⟩
  rw [List.singleton_append, read, Flags.next_cons fun _ => by decide]
  dsimp only
  rw [single]
  rfl

theorem readsOnce_dollar (single : f.perLine = false) : ReadsOnce f ['$'] (.place .textEnd) := by
  refine ⟨⟨'$', [], rfl, by decide, fun _ => by decide⟩, fun n branches items outer names rest => ?_⟩
  rw [List.singleton_append, read, Flags.next_cons fun _ => by decide]
  dsimp only
  rw [single]
  rfl

theorem readsOnce_assertion {c : Char} {a : Assertion}
    (escape : ∀ rest, readEscape f (c :: rest) = some (.assertion a, rest)) : ReadsOnce f ['\\', c] (.place a) := by
  refine ⟨⟨'\\', [c], rfl, by decide, fun _ => by decide⟩, fun n branches items outer names rest => ?_⟩
  rw [List.cons_append, read, Flags.next_cons fun _ => by decide]
  change (readEscape f (c :: rest)).bind _ = _
  rw [escape]
  rfl

/-! ## Brackets -/

theorem readsOnce_bracket {t : Text} {s : CharSet} (filled : t ≠ [])
    (bracket : ∀ (n : Nat) (rest : Text), readBracket {} (n + 3) (t ++ rest) = some (s, rest)) :
    ReadsOnce {} ('[' :: t) (.char s) := by
  refine ⟨⟨'[', t, rfl, by decide, fun _ => by decide⟩, fun n branches items outer names rest => ?_⟩
  have fuel : 2 * (t ++ rest).length + 2 = (2 * (t ++ rest).length - 1) + 3 := by
    have := List.length_pos_iff.mpr filled
    rw [List.length_append]
    omega
  change (readBracket {} (2 * (t ++ rest).length + 2) (t ++ rest)).bind _ = _
  rw [fuel, bracket]
  rfl

/-! ## Repetitions -/

theorem dropLazy_of_plain {rest : Text} (plain : rest.head? ≠ some '?') : dropLazy rest = rest := by
  unfold dropLazy
  split
  · simp at plain
  · rfl

/-- The character repeats what stands before it, as `wrap` says. -/
def Repeats (f : Flags) (q : Char) (wrap : Regex → Regex) : Prop :=
  ∀ (n : Nat) (branches : List Regex) (r : Regex) (items : List Item) (outer : List Level) (names : List Text)
    (rest : Text), read (n + 1) ⟨⟨f, branches, .expr r :: items⟩, outer, names⟩ (q :: rest) =
      read n ⟨⟨f, branches, .expr (wrap r) :: items⟩, outer, names⟩ (dropLazy rest)

theorem repeats_star : Repeats f '*' .star := by
  intro n branches r items outer names rest
  rw [read, Flags.next_cons fun _ => by decide]
  rfl

theorem repeats_plus : Repeats f '+' plus := by
  intro n branches r items outer names rest
  rw [read, Flags.next_cons fun _ => by decide]
  rfl

theorem repeats_opt : Repeats f '?' opt := by
  intro n branches r items outer names rest
  rw [read, Flags.next_cons fun _ => by decide]
  rfl

theorem ReadsOnce.repeated {t : Text} {r : Regex} (once : ReadsOnce f t r) {q : Char} {wrap : Regex → Regex}
    (again : Repeats f q wrap) : Reads f (t ++ [q]) [wrap r] := by
  obtain ⟨⟨c, u, rfl, other⟩, step⟩ := once
  constructor
  · rintro _ ⟨⟩
    exact other
  · intro n branches items outer names rest plain
    refine ⟨n + u.length, Nat.le_add_right n _, ?_⟩
    have fuel : n + (c :: u ++ [q]).length = n + u.length + 1 + 1 := by
      simp only [List.length_append, List.length_cons, List.length_nil]
      omega
    rw [fuel, List.append_assoc, step, List.singleton_append, again, dropLazy_of_plain plain]
    rfl

/-- A question mark behind the repetition changes nothing. -/
theorem ReadsOnce.lazily {t : Text} {r : Regex} (once : ReadsOnce f t r) {q : Char} {wrap : Regex → Regex}
    (again : Repeats f q wrap) : Reads f (t ++ [q, '?']) [wrap r] := by
  obtain ⟨⟨c, u, rfl, other⟩, step⟩ := once
  constructor
  · rintro _ ⟨⟩
    exact other
  · intro n branches items outer names rest _
    refine ⟨n + u.length + 1, by omega, ?_⟩
    have fuel : n + (c :: u ++ [q, '?']).length = n + u.length + 1 + 1 + 1 := by
      simp only [List.length_append, List.length_cons, List.length_nil]
      omega
    rw [fuel, List.append_assoc, step, List.cons_append, again]
    rfl

theorem ReadsOnce.star {t : Text} {r : Regex} (once : ReadsOnce f t r) : Reads f (t ++ ['*']) [.star r] :=
  once.repeated repeats_star

theorem ReadsOnce.plus {t : Text} {r : Regex} (once : ReadsOnce f t r) : Reads f (t ++ ['+']) [Regex.plus r] :=
  once.repeated repeats_plus

theorem ReadsOnce.opt {t : Text} {r : Regex} (once : ReadsOnce f t r) : Reads f (t ++ ['?']) [Regex.opt r] :=
  once.repeated repeats_opt

/-! ## Groups -/

theorem sequence_reverse (rs : List Regex) : sequence (rs.map Item.expr).reverse = seqs rs := by
  rw [sequence, List.foldl_reverse, List.foldr_map]
  rfl

theorem sequence_append_directive (items : List Item) : sequence (items ++ [.directive]) = sequence items := by
  rw [sequence, List.foldl_append]
  rfl

theorem readGroupStart_of_plain {t : Text} (plain : ∀ c ∈ t.head?, c ≠ '?' ∧ f.Counts c) :
    readGroupStart f t = some (.group f none, t) := by
  have next : f.next t = t := by
    cases t with
    | nil => exact f.next_nil
    | cons c t => exact Flags.next_cons (plain c rfl).2 t
  rw [readGroupStart.eq_def]
  dsimp only
  rw [next]
  split
  case h_8 => rfl
  all_goals exact absurd rfl (plain '?' rfl).1

theorem read_open {t : Text} (plain : ∀ c ∈ t.head?, c ≠ '?' ∧ f.Counts c) (n : Nat) (branches : List Regex)
    (items : List Item) (outer : List Level) (names : List Text) :
    read (n + 1) ⟨⟨f, branches, items⟩, outer, names⟩ ('(' :: t) =
      read n ⟨⟨f, [], []⟩, ⟨f, branches, items⟩ :: outer, names⟩ t := by
  rw [read, Flags.next_cons fun _ => by decide]
  change (readGroupStart f t).bind _ = _
  rw [readGroupStart_of_plain plain]
  rfl

theorem read_directive {g : Flags} {t rest : Text} (start : readGroupStart f t = some (.directive g, rest)) (n : Nat)
    (branches : List Regex) (items : List Item) (outer : List Level) (names : List Text) :
    read (n + 1) ⟨⟨f, branches, items⟩, outer, names⟩ ('(' :: t) =
      read n ⟨⟨g, branches, .directive :: items⟩, outer, names⟩ rest := by
  rw [read, Flags.next_cons fun _ => by decide]
  change (readGroupStart f t).bind _ = _
  rw [start]
  rfl

theorem read_close (n : Nat) (branches branches' : List Regex) (items items' : List Item) (outer : List Level)
    (names : List Text) (rest : Text) :
    read (n + 1) ⟨⟨f, branches, items⟩, ⟨f, branches', items'⟩ :: outer, names⟩ (')' :: rest) =
      read n ⟨⟨f, branches', .expr (Level.expr ⟨f, branches, items⟩) :: items'⟩, outer, names⟩ rest := by
  rw [read, Flags.next_cons fun _ => by decide]
  rfl

theorem read_bar (n : Nat) (branches : List Regex) (items : List Item) (outer : List Level) (names : List Text)
    (rest : Text) : read (n + 1) ⟨⟨f, branches, items⟩, outer, names⟩ ('|' :: rest) =
      read n ⟨⟨f, sequence items :: branches, []⟩, outer, names⟩ rest := by
  rw [read, Flags.next_cons fun _ => by decide]
  rfl

theorem Reads.group {t : Text} {rs : List Regex} (reads : Reads f t rs) :
    Reads f ('(' :: (t ++ [')'])) [seqs rs] where
  start := by
    rintro _ ⟨⟩
    exact ⟨by decide, fun _ => by decide⟩
  steps n branches items outer names rest _ := by
    have next : ∀ c ∈ (t ++ ')' :: rest).head?, c ≠ '?' ∧ f.Counts c := by
      refine reads.start_append ?_
      rintro _ ⟨⟩
      exact ⟨by decide, fun _ => by decide⟩
    obtain ⟨m, enough, inner⟩ :=
      reads.steps (n + 1) [] [] (⟨f, branches, items⟩ :: outer) names (')' :: rest) (by simp)
    obtain ⟨k, rfl⟩ := Nat.exists_eq_add_of_le' (Nat.le_trans (Nat.le_add_left 1 n) enough)
    refine ⟨k, by omega, ?_⟩
    have fuel : n + ('(' :: (t ++ [')'])).length = n + 1 + t.length + 1 := by
      simp only [List.length_cons, List.length_append, List.length_nil]
      omega
    rw [fuel, List.cons_append, List.append_assoc, List.singleton_append, read_open next, inner, read_close,
      List.append_nil]
    simp only [Level.expr, sequence_reverse]
    rfl

theorem Reads.either {t u : Text} {rs ss : List Regex} (first : Reads f t rs) (second : Reads f u ss) :
    Reads f ('(' :: (t ++ '|' :: (u ++ [')']))) [.alt (seqs rs) (seqs ss)] where
  start := by
    rintro _ ⟨⟩
    exact ⟨by decide, fun _ => by decide⟩
  steps n branches items outer names rest _ := by
    have next : ∀ c ∈ (t ++ '|' :: (u ++ ')' :: rest)).head?, c ≠ '?' ∧ f.Counts c := by
      refine first.start_append ?_
      rintro _ ⟨⟩
      exact ⟨by decide, fun _ => by decide⟩
    obtain ⟨m, enough, left⟩ := first.steps (n + 1 + u.length + 1) [] [] (⟨f, branches, items⟩ :: outer) names
      ('|' :: (u ++ ')' :: rest)) (by simp)
    obtain ⟨extra, rfl⟩ := Nat.exists_eq_add_of_le' enough
    obtain ⟨m, enough, right⟩ := second.steps (extra + n + 1) [sequence ((rs.map Item.expr).reverse ++ [])] []
      (⟨f, branches, items⟩ :: outer) names (')' :: rest) (by simp)
    obtain ⟨k, rfl⟩ := Nat.exists_eq_add_of_le' (Nat.le_trans (Nat.le_add_left 1 (extra + n)) enough)
    refine ⟨k, by omega, ?_⟩
    have fuel : n + ('(' :: (t ++ '|' :: (u ++ [')']))).length = n + 1 + u.length + 1 + t.length + 1 := by
      simp only [List.length_cons, List.length_append, List.length_nil]
      omega
    have later : extra + (n + 1 + u.length + 1) = extra + n + 1 + u.length + 1 := by omega
    rw [fuel, List.cons_append, List.append_assoc, List.cons_append, List.append_assoc, List.singleton_append,
      read_open next, left, later, read_bar, right, read_close, List.append_nil, List.append_nil]
    simp only [Level.expr, List.reverse_cons, List.reverse_nil, List.nil_append, List.singleton_append, alts,
      sequence_reverse]
    rfl

end

/-! ## Whole texts -/

theorem Reads.ofText? {t : Text} {rs : List Regex} (reads : Reads {} t rs) : ofText? t = some (seqs rs) := by
  obtain ⟨m, enough, all⟩ := reads.steps 1 [] [] [] [] [] (by simp)
  obtain ⟨k, rfl⟩ := Nat.exists_eq_add_of_le' enough
  rw [List.append_nil, List.append_nil, Nat.add_comm] at all
  rw [Regex.ofText?, all, read, Flags.next_nil, ← sequence_reverse]
  rfl

theorem Reads.ofText?_anchored {t : Text} {rs : List Regex} {L : Text → Prop} (reads : Reads {} t rs)
    (denotes : Denotes (seqs rs) L) :
    ∃ r, Regex.ofText? ('^' :: t ++ ['$']) = some r ∧ ∀ s, r.isMatch s = true ↔ L s := by
  have whole := ((readsOnce_caret rfl).reads.append reads).append (readsOnce_dollar rfl).reads
  refine ⟨_, whole.ofText?, fun s => (isMatch_congr (fun before m after => ?_) s).trans (denotes.isMatch_whole s)⟩
  rw [List.append_assoc, List.singleton_append, seqs_cons, Regex.whole]
  simp only [matches_seq, matches_seqs_append, matches_seqs_singleton]

/-- The text is read as expressions that denote the language. -/
def Spells (t : Text) (L : Text → Prop) : Prop := ∃ rs, Reads {} t rs ∧ Denotes (seqs rs) L

theorem Reads.spells {t : Text} {r : Regex} {L : Text → Prop} (reads : Reads {} t [r]) (denotes : Denotes r L) :
    Spells t L := ⟨[r], reads, denotes_singleton.mpr denotes⟩

theorem Spells.append {t u : Text} {L K : Text → Prop} (first : Spells t L) (second : Spells u K) :
    Spells (t ++ u) (Followed L K) := by
  obtain ⟨rs, reads, denotes⟩ := first
  obtain ⟨ss, reads', denotes'⟩ := second
  exact ⟨rs ++ ss, reads.append reads', denotes.append denotes'⟩

theorem Spells.congr {t : Text} {L K : Text → Prop} (spells : Spells t L) (same : ∀ m, L m ↔ K m) :
    Spells t K := by
  obtain ⟨rs, reads, denotes⟩ := spells
  exact ⟨rs, reads, denotes.congr same⟩

theorem spells_flatMap {α : Type} {f : α → Text} {L : α → Text → Prop} {xs : List α}
    (all : ∀ x ∈ xs, Spells (f x) (L x)) : Spells (xs.flatMap f) (Joined L xs) := by
  induction xs with
  | nil => exact ⟨[], reads_nil, denotes_empty.congr fun m => joined_nil.symm⟩
  | cons x xs ih =>
      obtain ⟨head, tail⟩ := List.forall_mem_cons.mp all
      exact (head.append (ih tail)).congr fun m => joined_cons.symm

theorem spells_escape (t : Text) : Spells (escape t) (· = t) := ⟨_, reads_escape rfl rfl t, denotes_literal t⟩

theorem Spells.group {t : Text} {L : Text → Prop} (spells : Spells t L) : Spells ('(' :: (t ++ [')'])) L := by
  obtain ⟨rs, reads, denotes⟩ := spells
  exact reads.group.spells denotes

theorem Spells.either {t u : Text} {L K : Text → Prop} (first : Spells t L) (second : Spells u K) :
    Spells ('(' :: (t ++ '|' :: (u ++ [')']))) fun m => L m ∨ K m := by
  obtain ⟨rs, reads, denotes⟩ := first
  obtain ⟨ss, reads', denotes'⟩ := second
  exact (reads.either reads').spells (denotes.alt denotes')

/-- A text between anchors matches the texts that it spells. -/
theorem Spells.ofText?_anchored {t : Text} {L : Text → Prop} (spells : Spells t L) :
    ∃ r, ofText? ('^' :: t ++ ['$']) = some r ∧ ∀ s, r.isMatch s = true ↔ L s := by
  obtain ⟨rs, reads, denotes⟩ := spells
  exact reads.ofText?_anchored denotes

end SuiteAudit.Regex
