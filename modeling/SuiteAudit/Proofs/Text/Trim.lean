import Mathlib.Data.List.DropRight
import SuiteAudit.Text.Basic

/-!
# Trimming

Readers cut a text from its start, so white space at its end can be taken away first or last: what
follows a beginning, a mark or a run without blanks is trimmed as the whole text is.
-/

namespace SuiteAudit.Text

/-! ## Ends of texts -/

theorem trimEnd_cons (c : Char) (t : Text) :
    trimEnd (c :: t) = if isBlank c && (trimEnd t).isEmpty then [] else c :: trimEnd t := by
  simp only [trimEnd, List.reverse_cons, List.dropWhile_append, List.isEmpty_reverse]
  cases rest : (t.reverse.dropWhile isBlank).isEmpty with
  | false => simp
  | true =>
      rw [List.isEmpty_iff] at rest
      cases blank : isBlank c <;> simp [rest, blank]

theorem trimEnd_cons_of_not_blank {c : Char} (solid : isBlank c = false) (t : Text) :
    trimEnd (c :: t) = c :: trimEnd t := by
  simp [trimEnd_cons, solid]

theorem trimEnd_trimEnd (t : Text) : trimEnd (trimEnd t) = trimEnd t :=
  List.rdropWhile_idempotent isBlank t

theorem trimEnd_isPrefix (t : Text) : trimEnd t <+: t := List.rdropWhile_prefix isBlank t

theorem exists_trimEnd_append (t : Text) :
    ∃ blanks, t = trimEnd t ++ blanks ∧ ∀ c ∈ blanks, isBlank c = true := by
  refine ⟨(t.reverse.takeWhile isBlank).reverse, ?_, fun c member => ?_⟩
  · rw [trimEnd, ← List.reverse_append, List.takeWhile_append_dropWhile, List.reverse_reverse]
  · exact List.mem_takeWhile_imp (List.mem_reverse.mp member)

theorem trimEnd_append {head : Text} (solid : head.getLast?.any isBlank = false) (t : Text) :
    trimEnd (head ++ t) = head ++ trimEnd t := by
  induction head with
  | nil => rfl
  | cons c head ih =>
      cases head with
      | nil => exact trimEnd_cons_of_not_blank (by simpa using solid) t
      | cons d head =>
          have rest := ih (by simpa using solid)
          rw [List.cons_append, trimEnd_cons, rest]
          simp

theorem trimEnd_eq_self {t : Text} (solid : t.getLast?.any isBlank = false) : trimEnd t = t := by
  have kept := trimEnd_append solid []
  rw [List.append_nil] at kept
  exact kept.trans (List.append_nil t)

theorem trimStart_cons (c : Char) (t : Text) :
    trimStart (c :: t) = if isBlank c then trimStart t else c :: t := by
  rw [trimStart, List.dropWhile_cons]
  rfl

theorem trimStart_of_solid {c : Char} (solid : isBlank c = false) (t : Text) : trimStart (c :: t) = c :: t := by
  simp [trimStart_cons, solid]

theorem trimStart_of_allBlank {space : Text} (blank : allBlank space = true) : trimStart space = [] :=
  List.dropWhile_eq_nil_iff.mpr (List.all_eq_true.mp blank)

theorem exists_trimStart (t : Text) : ∃ space, allBlank space = true ∧ t = space ++ trimStart t :=
  ⟨t.takeWhile isBlank, List.all_eq_true.mpr fun _ => List.mem_takeWhile_imp,
    List.takeWhile_append_dropWhile.symm⟩

theorem not_mem_of_allBlank {c : Char} (solid : isBlank c = false) {space : Text}
    (blank : allBlank space = true) : c ∉ space := by
  intro member
  rw [List.all_eq_true.mp blank c member] at solid
  cases solid

theorem trimStart_cases (t : Text) :
    trimStart t = [] ∨ ∃ c rest, trimStart t = c :: rest ∧ isBlank c = false := by
  induction t with
  | nil => exact .inl rfl
  | cons c t ih =>
      rw [trimStart_cons]
      cases blank : isBlank c with
      | true => exact ih
      | false => exact .inr ⟨c, t, rfl, blank⟩

theorem trimStart_suffix (t : Text) : trimStart t <:+ t := List.dropWhile_suffix _

theorem trim_isInfix (t : Text) : trim t <:+: t :=
  (trimEnd_isPrefix _).isInfix.trans (trimStart_suffix t).isInfix

theorem mem_trimStart {c : Char} (solid : isBlank c = false) (t : Text) : c ∈ trimStart t ↔ c ∈ t := by
  refine ⟨fun member => (trimStart_suffix t).subset member, fun member => ?_⟩
  obtain ⟨space, blank, whole⟩ := exists_trimStart t
  rw [whole] at member
  exact (List.mem_append.mp member).resolve_left (not_mem_of_allBlank solid blank)

theorem trimStart_trimStart (t : Text) : trimStart (trimStart t) = trimStart t :=
  List.dropWhile_idempotent isBlank t

theorem trimStart_trimEnd (t : Text) : trimStart (trimEnd t) = trimEnd (trimStart t) := by
  induction t with
  | nil => rfl
  | cons c t ih =>
      cases blank : isBlank c with
      | false => simp [trimEnd_cons, trimStart_cons, blank]
      | true =>
          have step : trimStart (c :: t) = trimStart t := by simp [trimStart_cons, blank]
          rw [step, ← ih, trimEnd_cons]
          cases empty : trimEnd t with
          | nil => simp [blank]
          | cons d rest => simp [trimStart_cons c, blank]

theorem trimStart_trim (t : Text) : trimStart (trim t) = trimEnd (trimStart t) := by
  rw [trim, trimStart_trimEnd, trimStart_trimStart]

theorem trim_trimEnd (t : Text) : trim (trimEnd t) = trim t := by
  rw [trim, trimStart_trimEnd, trimEnd_trimEnd, trim]

theorem trim_trim (t : Text) : trim (trim t) = trim t := by
  rw [trim, trimStart_trim, trimEnd_trimEnd, trim]

theorem trimEnd_of_trimmed {t : Text} (trimmed : trim t = t) : trimEnd t = t := by
  rw [← trimmed, trim, trimEnd_trimEnd]

theorem trimStart_of_trimmed {t : Text} (trimmed : trim t = t) : trimStart t = t := by
  rw [← trimmed, trimStart_trim, ← trim, trimmed]

theorem allBlank_of_trimStart {t : Text} (filled : trimStart t ≠ []) : allBlank t = false := by
  rw [← Bool.not_eq_true]
  exact fun blank => filled (trimStart_of_allBlank blank)

theorem allBlank_of_trimmed {t : Text} (trimmed : trim t = t) (filled : t ≠ []) :
    allBlank t = false :=
  allBlank_of_trimStart (by rwa [trimStart_of_trimmed trimmed])

theorem trim_cons_of_blank {c : Char} (blank : isBlank c = true) (t : Text) :
    trim (c :: t) = trim t := by
  simp [trim, trimStart_cons, blank]

/-! ## Cutting a trimmed text -/

theorem after?_eq_some {head t rest : Text} : after? head t = some rest ↔ t = head ++ rest := by
  induction head generalizing t with
  | nil => simp [after?]
  | cons h head ih =>
      cases t with
      | nil => simp [after?]
      | cons c t =>
          by_cases same : h = c
          · simp [after?, same, ih]
          · simp [after?, same, Ne.symm same]

theorem before?_eq_some {tail t rest : Text} : before? tail t = some rest ↔ t = rest ++ tail := by
  rw [before?, Option.map_eq_some_iff]
  constructor
  · rintro ⟨back, found, rfl⟩
    have cut := congrArg List.reverse (after?_eq_some.mp found)
    simpa using cut
  · rintro rfl
    exact ⟨rest.reverse, after?_eq_some.mpr (by simp), List.reverse_reverse rest⟩

theorem before?_cons {t : Text} (filled : t ≠ []) (e c : Char) :
    before? [e] (c :: t) = (before? [e] t).map (c :: ·) := by
  ext rest
  rw [before?_eq_some, Option.map_eq_some_iff]
  constructor
  · intro cut
    cases rest with
    | nil => exact absurd (List.cons.inj cut).2 filled
    | cons d rest =>
        obtain ⟨rfl, same⟩ := List.cons.inj cut
        exact ⟨rest, before?_eq_some.mpr same, rfl⟩
  · rintro ⟨inner, found, rfl⟩
    rw [before?_eq_some.mp found]
    rfl

theorem after?_trimEnd {head : Text} (solid : head.getLast?.any isBlank = false) (t : Text) :
    after? head (trimEnd t) = (after? head t).map trimEnd := by
  induction head generalizing t with
  | nil => rfl
  | cons h head ih =>
      cases t with
      | nil => rfl
      | cons c t =>
          cases head with
          | nil =>
              -- A last character that is not blank is found in both texts or in none.
              by_cases same : h = c
              · subst same
                rw [trimEnd_cons_of_not_blank (by simpa using solid)]
                simp [after?]
              · rw [trimEnd_cons]
                split <;> simp [after?, same]
          | cons h' head =>
              have rest := ih (by simpa using solid) t
              rw [trimEnd_cons]
              split
              case isTrue both =>
                have empty : trimEnd t = [] := by simpa using (Bool.and_eq_true_iff.mp both).2
                rw [empty] at rest
                have none : after? (h' :: head) t = none := by simpa [after?] using rest.symm
                simp only [after?.eq_2, after?.eq_3, none]
                split <;> rfl
              case isFalse =>
                simp only [after?.eq_3, rest]
                split <;> rfl

theorem after?_getD_trimEnd {head : Text} (solid : head.getLast?.any isBlank = false) (t : Text) :
    (after? head (trimEnd t)).getD (trimEnd t) = trimEnd ((after? head t).getD t) := by
  rw [after?_trimEnd solid]
  cases after? head t <;> rfl

theorem after?_getD_suffix (head t : Text) : (after? head t).getD t <:+ t := by
  cases found : after? head t with
  | none => exact List.suffix_rfl
  | some rest => exact ⟨head, (after?_eq_some.mp found).symm⟩

/-- The first of some marks that a text begins with is found in the trimmed text too. -/
theorem findSome?_after?_trimEnd {α : Type} (text : α → Text) {heads : List α}
    (solid : ∀ a ∈ heads, (text a).getLast?.any isBlank = false) (t : Text) :
    (heads.findSome? fun a => (after? (text a) (trimEnd t)).map fun rest => (a, rest)) =
      (heads.findSome? fun a => (after? (text a) t).map fun rest => (a, rest)).map
        fun s => (s.1, trimEnd s.2) := by
  induction heads with
  | nil => rfl
  | cons a heads ih =>
      have later := ih fun b member => solid b (List.mem_cons_of_mem a member)
      rw [List.findSome?_cons, List.findSome?_cons, after?_trimEnd (solid a List.mem_cons_self)]
      cases after? (text a) t with
      | none => exact later
      | some rest => rfl

theorem findSome?_after?_suffix {α : Type} (text : α → Text) {heads : List α} {t rest : Text} {a : α}
    (found : (heads.findSome? fun a => (after? (text a) t).map fun rest => (a, rest)) =
      some (a, rest)) : rest <:+ t := by
  obtain ⟨b, -, same⟩ := List.exists_of_findSome?_eq_some found
  obtain ⟨_, cut, equal⟩ := Option.map_eq_some_iff.mp same
  cases equal
  exact ⟨_, (after?_eq_some.mp cut).symm⟩

theorem cut?_eq_some {c : Char} {t before rest : Text} (found : cut? c t = some (before, rest)) :
    t = before ++ c :: rest := by
  induction t generalizing before with
  | nil => cases found
  | cons d t ih =>
      rw [cut?] at found
      split at found
      case isTrue same =>
        cases found
        rw [same]
        rfl
      case isFalse =>
        obtain ⟨⟨head, tail⟩, below, equal⟩ := Option.map_eq_some_iff.mp found
        cases equal
        exact congrArg (d :: ·) (ih below)

theorem not_mem_of_cut? {c : Char} {t before rest : Text} (found : cut? c t = some (before, rest)) :
    c ∉ before := by
  induction t generalizing before with
  | nil => cases found
  | cons d t ih =>
      rw [cut?] at found
      split at found
      case isTrue =>
        cases found
        exact List.not_mem_nil
      case isFalse other =>
        obtain ⟨cut, inner, same⟩ := Option.map_eq_some_iff.mp found
        cases same
        exact List.not_mem_cons_of_ne_of_not_mem (Ne.symm other) (ih inner)

theorem cut?_append {c : Char} {before : Text} (absent : c ∉ before) (rest : Text) :
    cut? c (before ++ c :: rest) = some (before, rest) := by
  induction before with
  | nil => simp [cut?]
  | cons d before ih =>
      obtain ⟨other, absent⟩ := List.ne_and_not_mem_of_not_mem_cons absent
      rw [List.cons_append, cut?, if_neg (Ne.symm other), ih absent]
      rfl

theorem cut?_trimEnd {c : Char} (solid : isBlank c = false) (t : Text) :
    cut? c (trimEnd t) = (cut? c t).map fun s => (s.1, trimEnd s.2) := by
  induction t with
  | nil => rfl
  | cons d t ih =>
      by_cases same : d = c
      · subst same
        rw [trimEnd_cons_of_not_blank solid]
        simp [cut?]
      · rw [trimEnd_cons]
        split
        case isTrue both =>
          have empty : trimEnd t = [] := by simpa using (Bool.and_eq_true_iff.mp both).2
          rw [empty] at ih
          have none : cut? c t = none := by simpa [cut?] using ih.symm
          simp [cut?, same, none]
        case isFalse =>
          simp only [cut?, same, if_false, ih, Option.map_map]
          rfl

theorem takeWhile_trimEnd {test : Char → Bool} (solid : ∀ c, test c = true → isBlank c = false)
    (t : Text) : (trimEnd t).takeWhile test = t.takeWhile test := by
  induction t with
  | nil => rfl
  | cons c t ih =>
      cases passes : test c with
      | true => simp [trimEnd_cons_of_not_blank (solid c passes), passes, ih]
      | false =>
          rw [trimEnd_cons]
          split <;> simp [passes]

theorem drop_takeWhile_trimEnd {test : Char → Bool} (solid : ∀ c, test c = true → isBlank c = false)
    (t : Text) : (trimEnd t).drop (t.takeWhile test).length =
      trimEnd (t.drop (t.takeWhile test).length) := by
  induction t with
  | nil => rfl
  | cons c t ih =>
      cases passes : test c with
      | true => simpa [trimEnd_cons_of_not_blank (solid c passes), passes] using ih
      | false => simp [passes]

/-! ## Line feeds -/

theorem not_mem_of_suffix {c : Char} {s t : Text} (suffix : s <:+ t) (absent : c ∉ t) : c ∉ s :=
  fun member => absent (suffix.subset member)

theorem hasLineFeed_eq_false {t : Text} : hasLineFeed t = false ↔ '\n' ∉ t := by
  simp [hasLineFeed]

end SuiteAudit.Text
