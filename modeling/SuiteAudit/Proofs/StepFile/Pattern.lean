import Mathlib.Data.String.Basic
import SuiteAudit.Proofs.Guarded.Braces
import SuiteAudit.Proofs.Regex.Reading
import SuiteAudit.StepFile.Pattern

/-!
# What the patterns of quoted expressions match

A pattern holds an expression and its text, built side by side. `Means` says that both denote one language, so a
whole pattern that is put together from such patterns matches the texts of their languages, one after the other,
whether its expression is taken or its text is read (`decides_joined`). A quoted expression is put together from
characters and parameters, and it matches its instances (`ofExpression_decides`).
-/

namespace SuiteAudit

open Regex

namespace Pattern

/-- The expression and the text of the pattern denote the language. -/
structure Means (p : Pattern) (L : Text → Prop) : Prop where
  denotes : Denotes p.regex L
  spells : Spells p.text L

/-- The pattern matches the texts in the language and no others, and so does the expression that its text is read
as. -/
structure Decides (p : Pattern) (L : Text → Prop) : Prop where
  isMatch_iff : ∀ s, p.isMatch s = true ↔ L s
  reads : ∃ r, Regex.ofText? p.text = some r ∧ ∀ s, r.isMatch s = true ↔ L s

theorem Decides.congr {p : Pattern} {L K : Text → Prop} (decides : p.Decides L) (same : ∀ m, L m ↔ K m) :
    p.Decides K := by
  obtain ⟨r, read, matched⟩ := decides.reads
  exact ⟨fun s => (decides.isMatch_iff s).trans (same s), r, read, fun s => (matched s).trans (same s)⟩

theorem decides_joined {α : Type} {f : α → Pattern} {L : α → Text → Prop} {xs : List α}
    (all : ∀ x ∈ xs, (f x).Means (L x)) :
    Decides ⟨'^' :: (xs.map f).flatMap text ++ ['$'], whole (seqs ((xs.map f).map regex))⟩ (Joined L xs) := by
  constructor
  · intro s
    rw [List.map_map]
    exact (denotes_seqs fun x member => (all x member).denotes).isMatch_whole s
  · rw [List.flatMap_map]
    exact (spells_flatMap fun x member => (all x member).spells).ofText?_anchored

theorem means_plain (t : Text) : Means ⟨Regex.escape t, Regex.literal t⟩ (· = t) :=
  ⟨denotes_literal t, spells_escape t⟩

theorem means_dots : Means ⟨".*", anyText⟩ ('\n' ∉ ·) :=
  ⟨denotes_anyText, (readsOnce_dot rfl).star.spells denotes_anyText⟩

/-! ## Parameters -/

def Optionally (c : Char) (m : Text) : Prop := m = [c] ∨ m = []

def Digits (m : Text) : Prop := ∀ c ∈ m, Text.isDigit c = true

/-- A text in quotes, without that quote inside. -/
def Quotes (q : Char) (m : Text) : Prop := ∃ inner, m = q :: (inner ++ [q]) ∧ q ∉ inner

/-- The texts that a parameter stands for, by its name. -/
def Accepts (name : Text) : Text → Prop :=
  if name = "int".toList then Followed (Optionally '-') fun digits => digits ≠ [] ∧ Digits digits
  else if name = "float".toList then Followed (Optionally '-')
    (Followed Digits (Followed (Optionally '.') fun digits => digits ≠ [] ∧ Digits digits))
  else if name = "word".toList then fun m => m ≠ [] ∧ ∀ c ∈ m, Text.isBlank c = false
  else if name = "string".toList then fun m => Quotes '"' m ∨ Quotes '\'' m
  else ('\n' ∉ ·)

theorem denotes_optionally (c : Char) : Denotes (opt (Regex.literal [c])) (Optionally c) :=
  (denotes_literal [c]).opt

theorem spells_optionally {c : Char} {t : Text} (once : ReadsOnce {} t (.char (.single c))) :
    Spells (t ++ ['?']) (Optionally c) := once.opt.spells (denotes_single c).opt

theorem denotes_digits : Denotes (plus (.char .digit)) fun m => m ≠ [] ∧ Digits m := denotes_plus_char .digit

theorem spells_digits : Spells "\\d+" fun m => m ≠ [] ∧ Digits m := readsOnce_digit.plus.spells denotes_digits

theorem denotes_anyDigits : Denotes (.star (.char .digit)) Digits := denotes_star_char .digit

theorem means_int : Means ⟨"(-?\\d+)", .seq (opt (Regex.literal ['-'])) (plus (.char .digit))⟩
    (Followed (Optionally '-') fun digits => digits ≠ [] ∧ Digits digits) where
  denotes := (denotes_optionally '-').seq denotes_digits
  spells := ((spells_optionally readsOnce_hyphen).append spells_digits).group

theorem means_float : Means ⟨"(-?\\d*\\.?\\d+)", .seq (opt (Regex.literal ['-'])) (.seq (.star (.char .digit))
      (.seq (opt (Regex.literal ['.'])) (plus (.char .digit))))⟩
    (Followed (Optionally '-') (Followed Digits
      (Followed (Optionally '.') fun digits => digits ≠ [] ∧ Digits digits))) where
  denotes := (denotes_optionally '-').seq
    (denotes_anyDigits.seq ((denotes_optionally '.').seq denotes_digits))
  spells := by
    have point : ReadsOnce {} ['\\', '.'] (.char (.single '.')) := readsOnce_escaped rfl rfl
    have whole := readsOnce_digit.star.spells denotes_anyDigits
    have fraction := (spells_optionally point).append spells_digits
    exact ((spells_optionally readsOnce_hyphen).append (whole.append fraction)).group

theorem means_word : Means ⟨"([^\\s]+)", plus (.char (.compl .blank))⟩
    fun m => m ≠ [] ∧ ∀ c ∈ m, Text.isBlank c = false := by
  have solid {s : CharSet} (same : ∀ c, s.mem c = !Text.isBlank c) :
      Denotes (plus (.char s)) fun m => m ≠ [] ∧ ∀ c ∈ m, Text.isBlank c = false := by
    refine (denotes_plus_char s).congr fun m => ?_
    simp only [same, Bool.not_eq_true']
  constructor
  · exact solid fun c => rfl
  · have bracket : ReadsOnce {} "[^\\s]".toList (.char (.compl (.union .nothing .blank))) :=
      readsOnce_bracket (t := "^\\s]".toList) (by decide) fun n rest => rfl
    exact (bracket.plus.spells (solid fun c => rfl)).group

theorem followed_quotes {q : Char} {s : CharSet} (others : ∀ c, s.mem c = !(CharSet.single q).mem c) (m : Text) :
    Followed (· = [q]) (Followed (fun inner => ∀ c ∈ inner, s.mem c = true) (· = [q])) m ↔ Quotes q m := by
  have inside (inner : Text) : (∀ c ∈ inner, s.mem c = true) ↔ q ∉ inner := by
    simp only [others, Bool.not_eq_true', ← Bool.not_eq_true, CharSet.mem_single]
    constructor
    · intro all member
      exact all q member rfl
    · rintro absent c member rfl
      exact absent member
  constructor
  · rintro ⟨_, _, rfl, rfl, inner, _, rfl, all, rfl⟩
    exact ⟨inner, rfl, (inside inner).mp all⟩
  · rintro ⟨inner, rfl, absent⟩
    exact ⟨[q], inner ++ [q], rfl, rfl, inner, [q], rfl, (inside inner).mpr absent, rfl⟩

theorem denotes_quotes (q : Char) :
    Denotes (.seq (Regex.literal [q]) (.seq (.star (.char (.compl (.single q)))) (Regex.literal [q]))) (Quotes q) :=
  ((denotes_literal [q]).seq ((denotes_star_char _).seq (denotes_literal [q]))).congr
    (followed_quotes fun _ => rfl)

theorem spells_quotes {q : Char} (plain : isMeta q = false)
    (bracket : ∀ (n : Nat) (rest : Text), readBracket {} (n + 3) ('^' :: q :: ']' :: rest) =
      some (.compl (.union .nothing (.single q)), rest)) :
    Spells [q, '[', '^', q, ']', '*', q] (Quotes q) := by
  have quote := (readsOnce_plain rfl (Flags.counts_of_unspaced rfl q) plain).reads.spells (denotes_single q)
  have others : ReadsOnce {} ['[', '^', q, ']'] (.char (.compl (.union .nothing (.single q)))) :=
    readsOnce_bracket (t := ['^', q, ']']) (by simp) bracket
  have inner := others.star.spells (denotes_star_char _)
  exact (quote.append (inner.append quote)).congr (followed_quotes fun _ => rfl)

theorem means_parameter (name : Text) : (parameter name).Means (Accepts name) := by
  unfold parameter
  split
  next kind => rw [String.ofList_eq.mp kind]; exact means_int
  next kind => rw [String.ofList_eq.mp kind]; exact means_float
  next kind => rw [String.ofList_eq.mp kind]; exact means_word
  next kind =>
    rw [String.ofList_eq.mp kind]
    refine ⟨(denotes_quotes '"').alt (denotes_quotes '\''), ?_⟩
    have double : Spells "\"[^\"]*\"".toList (Quotes '"') := spells_quotes rfl fun n rest => rfl
    have single : Spells "'[^']*'".toList (Quotes '\'') := spells_quotes rfl fun n rest => rfl
    exact double.either single
  next notInt notFloat notWord notString =>
    have other {kind : String} (unlike : String.ofList name ≠ kind) : name ≠ kind.toList :=
      mt String.ofList_eq.mpr unlike
    rw [Accepts, if_neg (other notInt), if_neg (other notFloat), if_neg (other notWord),
      if_neg (other notString)]
    exact ⟨denotes_anyText, means_dots.spells.group⟩

/-! ## Quoted expressions -/

/-- The text is the expression with each parameter replaced by a text of its type. A parameter goes from the first
opening brace to the first closing brace after it. Where none is closed, the expression stands for itself. -/
inductive Instance : Text → Text → Prop
  | literal {e : Text} (unclosed : ∀ before after, e = before ++ '\x7b' :: after → '\x7d' ∉ after) : Instance e e
  | parameter {before name after value rest : Text} (first : '\x7b' ∉ before) (named : '\x7d' ∉ name)
      (accepted : Accepts name value) (below : Instance after rest) :
      Instance (before ++ '\x7b' :: (name ++ '\x7d' :: after)) (before ++ (value ++ rest))

def Part.Accepts : Part → Text → Prop
  | .char c => (· = [c])
  | .parameter name => Pattern.Accepts name

theorem Part.means_pattern (p : Part) : p.pattern.Means p.Accepts := by
  cases p with
  | char c => exact ⟨denotes_single c, spells_escape [c]⟩
  | parameter name => exact means_parameter name

theorem parts_literal {e : Text} (unclosed : ∀ before after, e = before ++ '\x7b' :: after → '\x7d' ∉ after) :
    parts none e = e.map .char := by
  by_cases opens : '\x7b' ∈ e
  · obtain ⟨before, after, rfl, fresh⟩ := List.eq_append_cons_of_mem opens
    rw [parts_append fresh, parts, if_pos rfl, parts_unclosed (unclosed before after rfl), List.map_append]
    rfl
  · have plain := parts_append opens []
    rwa [List.append_nil, parts, List.append_nil] at plain

theorem parts_parameter {before name : Text} (first : '\x7b' ∉ before) (named : '\x7d' ∉ name) (after : Text) :
    parts none (before ++ '\x7b' :: (name ++ '\x7d' :: after)) =
      before.map .char ++ .parameter name :: parts none after := by
  rw [parts_append first, parts, if_pos rfl, parts_name named]
  rfl

theorem unclosed_or_parameter (e : Text) :
    (∀ before after, e = before ++ '\x7b' :: after → '\x7d' ∉ after) ∨
      ∃ before name after, e = before ++ '\x7b' :: (name ++ '\x7d' :: after) ∧ '\x7b' ∉ before ∧ '\x7d' ∉ name := by
  by_cases opens : '\x7b' ∈ e
  · obtain ⟨before, rest, rfl, first⟩ := List.eq_append_cons_of_mem opens
    by_cases closes : '\x7d' ∈ rest
    · obtain ⟨name, after, rfl, named⟩ := List.eq_append_cons_of_mem closes
      exact .inr ⟨before, name, after, rfl, first, named⟩
    · -- Every other opening brace is behind the first, where no brace closes.
      left
      intro before' after same closes'
      rcases List.append_eq_append_iff.mp same with ⟨between, rfl, tail⟩ | ⟨between, rfl, tail⟩
      · cases between with
        | nil => exact closes ((List.cons.inj tail).2 ▸ closes')
        | cons c between =>
            obtain ⟨-, rfl⟩ := List.cons.inj tail
            exact closes (List.mem_append_right _ (List.mem_cons_of_mem _ closes'))
      · cases between with
        | nil => exact closes ((List.cons.inj tail).2 ▸ closes')
        | cons c between =>
            obtain ⟨rfl, -⟩ := List.cons.inj tail
            exact first (by simp)
  · left
    rintro before after rfl
    exact absurd (by simp) opens

theorem joined_char {t m : Text} : Joined Part.Accepts (t.map .char) m ↔ m = t :=
  joined_map_iff fun _ _ => Iff.rfl

theorem instance_iff {e s : Text} : Instance e s ↔ Joined Part.Accepts (parts none e) s := by
  constructor
  · intro found
    induction found with
    | literal unclosed => rw [parts_literal unclosed, joined_char]
    | @parameter before name after value rest first named accepted _ ih =>
        rw [parts_parameter first named, joined_append]
        exact ⟨before, value ++ rest, rfl, joined_char.mpr rfl, joined_cons.mpr ⟨value, rest, rfl, accepted, ih⟩⟩
  · intro joined
    induction size : e.length using Nat.strongRecOn generalizing e s with
    | ind n ih =>
        rcases unclosed_or_parameter e with unclosed | ⟨before, name, after, rfl, first, named⟩
        · rw [parts_literal unclosed, joined_char] at joined
          subst joined
          exact .literal unclosed
        · rw [parts_parameter first named, joined_append] at joined
          obtain ⟨_, _, rfl, same, below⟩ := joined
          obtain ⟨value, rest, rfl, accepted, below⟩ := joined_cons.mp below
          obtain rfl := joined_char.mp same
          have shorter : after.length < n := by
            rw [← size]
            simp only [List.length_append, List.length_cons]
            omega
          exact .parameter first named accepted (ih _ shorter below rfl)

theorem decides_ofExpression (e : Text) : (ofExpression e).Decides (Instance e) :=
  (decides_joined fun p _ => p.means_pattern).congr fun _ => instance_iff.symm

theorem instance_of_braceless {e : Text} (braceless : '\x7b' ∉ e) {s : Text} : Instance e s ↔ s = e := by
  have unclosed : ∀ before after, e = before ++ '\x7b' :: after → '\x7d' ∉ after := by
    rintro before after rfl
    exact absurd (by simp) braceless
  rw [instance_iff, parts_literal unclosed, joined_char]

/-- A quoted expression matches its instances. One without parameters matches only itself. -/
theorem ofExpression_decides (e : Text) :
    (ofExpression e).Decides (Instance e) ∧ ('\x7b' ∉ e → ∀ s, (ofExpression e).isMatch s = true ↔ s = e) := by
  have decides := decides_ofExpression e
  refine ⟨decides, fun braceless s => ?_⟩
  rw [decides.isMatch_iff, instance_of_braceless braceless]

theorem ofExpression_decides_price :
    '\x7b' ∉ ("it costs $3.50 (net)*" : Text) ∧
      ∀ s, (ofExpression "it costs $3.50 (net)*").isMatch s = true ↔ s = "it costs $3.50 (net)*" := by
  have plain : '\x7b' ∉ ("it costs $3.50 (net)*" : Text) := by decide
  exact ⟨plain, (ofExpression_decides _).2 plain⟩

end Pattern

end SuiteAudit
