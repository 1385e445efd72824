import SuiteAudit.Proofs.Text.Scan

/-!
# Replacing parts of a text

A table of markers and values is put into a text in one pass from left to right: where markers start, the first of
them in the table gives way to its value, which is not read again. Replacing one text by another is the case of a
single marker. A text may be cut where no marker lies across the border (`substitute_append`), and a replacement
that changes nothing finds nothing, or puts back what it finds (`replace_eq_self_iff`).
-/

namespace SuiteAudit.Text

/-- The value of the marker at the start of a text and the length of the marker. -/
def marker? (table : List (Text × Text)) (t : Text) : Option (Text × Nat) :=
  (table.find? fun e => e.1.isPrefixOf t).map fun e => (e.2, e.1.length)

/-- The text with their values for the markers of the table, all at once. -/
def substitute (table : List (Text × Text)) (t : Text) : Text := replaceEach (marker? table) t

theorem replace_eq_substitute (old new t : Text) : replace old new t = substitute [(old, new)] t := by
  refine congrArg (replaceEach · t) (funext fun t => ?_)
  rw [marker?, List.find?_singleton]
  split <;> rfl

section Table

variable {table : List (Text × Text)}

/-! ## One step -/

theorem substitute_found {e : Text × Text} {t : Text} (filled : e.1 ≠ [])
    (found : table.find? (fun e' => e'.1.isPrefixOf (e.1 ++ t)) = some e) :
    substitute table (e.1 ++ t) = e.2 ++ substitute table t :=
  replaceEach_found filled (by rw [marker?, found, Option.map_some])

theorem marker?_eq_none {t : Text} (none : ∀ e ∈ table, ¬ e.1 <+: t) : marker? table t = .none := by
  rw [marker?, Option.map_eq_none_iff, List.find?_eq_none]
  intro e member found
  exact none e member (List.isPrefixOf_iff_prefix.mp found)

theorem substitute_cons {c : Char} {t : Text} (none : ∀ e ∈ table, ¬ e.1 <+: c :: t) :
    substitute table (c :: t) = c :: substitute table t :=
  replaceEach_cons (marker?_eq_none none)

/-- A text is empty, starts with a marker, or starts with a character where no marker does. -/
theorem substitute_induction (filled : ∀ e ∈ table, e.1 ≠ []) {motive : Text → Prop} (nil : motive [])
    (found : ∀ e t, table.find? (fun e' => e'.1.isPrefixOf (e.1 ++ t)) = some e → motive t → motive (e.1 ++ t))
    (other : ∀ c t, (∀ e ∈ table, ¬ e.1 <+: c :: t) → motive t → motive (c :: t)) (t : Text) : motive t := by
  induction size : t.length using Nat.strongRecOn generalizing t with
  | ind n ih =>
      cases t with
      | nil => exact nil
      | cons c t =>
          cases first : table.find? fun e => e.1.isPrefixOf (c :: t) with
          | none =>
              refine other c t (fun e member starts => ?_) (ih _ (by simp [← size]) t rfl)
              exact List.find?_eq_none.mp first e member (List.isPrefixOf_iff_prefix.mpr starts)
          | some e =>
              have starts : e.1.isPrefixOf (c :: t) = true := by simpa using List.find?_some first
              obtain ⟨rest, whole⟩ := List.isPrefixOf_iff_prefix.mp starts
              have longer : 0 < e.1.length := List.length_pos_iff.mpr (filled e (List.mem_of_find?_eq_some first))
              have shorter : rest.length < n := by
                rw [← size, ← whole, List.length_append]
                omega
              rw [← whole] at first ⊢
              exact found e rest first (ih _ shorter rest rfl)

theorem substitute_of_not_infix {t : Text} (absent : ∀ e ∈ table, ¬ e.1 <:+: t) : substitute table t = t :=
  replaceEach_eq_self fun _ _ suffix => marker?_eq_none fun e member starts =>
    absent e member (starts.isInfix.trans suffix.isInfix)

/-! ## Borders -/

/-- No occurrence of the marker lies across the border between the two texts. -/
def Apart (old s t : Text) : Prop := ∀ m n, m ≠ [] → n ≠ [] → old = m ++ n → ¬ (m <:+ s ∧ n <+: t)

theorem Apart.of_suffix {old s s' t : Text} (apart : Apart old s t) (suffix : s' <:+ s) : Apart old s' t :=
  fun m n left right whole ⟨before, after⟩ => apart m n left right whole ⟨before.trans suffix, after⟩

theorem Apart.prefix_iff {old s t : Text} (apart : Apart old s t) (filled : s ≠ []) :
    old <+: s ++ t ↔ old <+: s := by
  refine ⟨fun starts => ?_, fun starts => starts.trans (List.prefix_append s t)⟩
  obtain ⟨rest, whole⟩ := starts
  rcases List.append_eq_append_iff.mp whole with ⟨m, longer, -⟩ | ⟨m, longer, after⟩
  · exact ⟨m, longer.symm⟩
  · cases m with
    | nil => exact ⟨[], by simpa using longer⟩
    | cons c m =>
        exact absurd ⟨List.suffix_refl s, rest, after.symm⟩ (apart s (c :: m) filled (by simp) longer)

theorem Apart.infix_iff {old s t : Text} (apart : Apart old s t) : old <:+: s ++ t ↔ old <:+: s ∨ old <:+: t := by
  constructor
  · intro inside
    induction s with
    | nil => exact .inr inside
    | cons c s ih =>
        rw [List.cons_append, List.infix_cons_iff, ← List.cons_append, apart.prefix_iff (by simp)] at inside
        rcases inside with starts | later
        · exact .inl starts.isInfix
        · exact (ih (apart.of_suffix (List.suffix_cons c s)) later).imp_left List.infix_cons
  · rintro (left | right)
    · exact left.trans (List.prefix_append s t).isInfix
    · exact right.trans (List.suffix_append s t).isInfix

theorem Apart.of_not_mem_right {old : Text} {c : Char} (absent : c ∉ old) (s t : Text) : Apart old s (c :: t) := by
  rintro m n - right rfl ⟨-, starts⟩
  cases n with
  | nil => contradiction
  | cons d n =>
      rw [List.cons_prefix_cons] at starts
      exact absent (by simp [starts.1])

theorem Apart.of_not_mem_left {old : Text} {c : Char} (absent : c ∉ old) (s t : Text) : Apart old (s ++ [c]) t := by
  rintro m n left - rfl ⟨ends, -⟩
  have last : m.getLast left = c := by
    rw [ends.getLast left, List.getLast_concat]
  exact absent (List.mem_append_left n (last ▸ List.getLast_mem left))

theorem substitute_append {s t : Text} (apart : ∀ e ∈ table, Apart e.1 s t) :
    substitute table (s ++ t) = substitute table s ++ substitute table t := by
  refine replaceEach_append fun u filled suffix => ⟨?_, fun e found => ?_⟩
  · rw [marker?, marker?, ← List.head?_filter, ← List.head?_filter]
    refine congrArg (Option.map _ ·.head?) (List.filter_congr fun e member => ?_)
    rw [Bool.eq_iff_iff, List.isPrefixOf_iff_prefix, List.isPrefixOf_iff_prefix,
      ((apart e member).of_suffix suffix).prefix_iff filled]
  · obtain ⟨entry, first, rfl⟩ := Option.map_eq_some_iff.mp found
    have starts : entry.1.isPrefixOf u = true := by simpa using List.find?_some first
    exact (List.isPrefixOf_iff_prefix.mp starts).length_le

end Table

/-! ## A single marker -/

section Marker

variable {old new : Text}

theorem replace_nil : replace old new [] = [] := rfl

theorem replace_marker (filled : old ≠ []) (t : Text) : replace old new (old ++ t) = new ++ replace old new t := by
  rw [replace_eq_substitute, replace_eq_substitute]
  have found : [(old, new)].find? (fun e => e.1.isPrefixOf (old ++ t)) = some (old, new) := by
    simp [List.isPrefixOf_iff_prefix]
  exact substitute_found (e := (old, new)) filled found

theorem replace_marker_self (filled : old ≠ []) : replace old new old = new := by
  have alone : replace old new (old ++ []) = new ++ replace old new [] := replace_marker filled []
  rwa [List.append_nil, replace_nil, List.append_nil] at alone

theorem replace_cons {c : Char} {t : Text} (other : ¬ old <+: c :: t) :
    replace old new (c :: t) = c :: replace old new t := by
  rw [replace_eq_substitute, replace_eq_substitute, substitute_cons (by simpa using other)]

theorem replace_of_not_infix {t : Text} (absent : ¬ old <:+: t) : replace old new t = t := by
  rw [replace_eq_substitute]
  exact substitute_of_not_infix (by simpa using absent)

theorem replace_of_not_mem {c : Char} {t : Text} (absent : c ∉ t) (old new : Text) :
    replace (c :: old) new t = t :=
  replace_of_not_infix fun inside => absent (inside.subset List.mem_cons_self)

theorem replace_append {s t : Text} (apart : Apart old s t) :
    replace old new (s ++ t) = replace old new s ++ replace old new t := by
  simp only [replace_eq_substitute]
  exact substitute_append (by simpa using apart)

theorem replace_induction (filled : old ≠ []) {motive : Text → Prop} (nil : motive [])
    (marker : ∀ t, motive t → motive (old ++ t))
    (other : ∀ c t, ¬ old <+: c :: t → motive t → motive (c :: t)) (t : Text) : motive t := by
  have single : ∀ e ∈ [(old, old)], e.1 ≠ [] := by simpa using filled
  induction t using substitute_induction single with
  | nil => exact nil
  | found e t first ih =>
      have same : e = (old, old) := by simpa using List.mem_of_find?_eq_some first
      rw [same]
      exact marker t ih
  | other c t none ih => exact other c t (none _ List.mem_cons_self) ih

theorem replace_self (filled : old ≠ []) (t : Text) : replace old old t = t := by
  induction t using replace_induction filled with
  | nil => rfl
  | marker t ih => rw [replace_marker filled, ih]
  | other c t none ih => rw [replace_cons none, ih]

/-- Each of some `k` occurrences makes up for the difference of the two lengths. -/
theorem length_replace (filled : old ≠ []) (new t : Text) :
    ∃ k, (replace old new t).length + k * old.length = t.length + k * new.length := by
  induction t using replace_induction filled with
  | nil => exact ⟨0, by rw [replace_nil, Nat.zero_mul, Nat.zero_mul]⟩
  | marker t ih =>
      obtain ⟨k, sizes⟩ := ih
      refine ⟨k + 1, ?_⟩
      rw [replace_marker filled, List.length_append, List.length_append, Nat.succ_mul, Nat.succ_mul]
      omega
  | other c t none ih =>
      obtain ⟨k, sizes⟩ := ih
      refine ⟨k, ?_⟩
      rw [replace_cons none, List.length_cons, List.length_cons]
      omega

/-- A replacement changes a text exactly if it finds something and puts something else in its place. -/
theorem replace_eq_self_iff (filled : old ≠ []) {t : Text} :
    replace old new t = t ↔ new = old ∨ ¬ old <:+: t := by
  constructor
  · intro same
    by_contra! changes
    obtain ⟨differs, inside⟩ := changes
    induction t using replace_induction filled with
    | nil => exact filled (List.eq_nil_of_infix_nil inside)
    | marker t _ =>
        rw [replace_marker filled] at same
        -- A longer value cannot be made up for by the rest, where all values are longer too.
        have size : new.length = old.length := by
          obtain ⟨k, sizes⟩ := length_replace filled new t
          have whole := congrArg List.length same
          rw [List.length_append, List.length_append] at whole
          refine Nat.eq_of_mul_eq_mul_left k.succ_pos ?_
          rw [Nat.succ_mul, Nat.succ_mul]
          omega
        exact differs (List.append_inj_left same size)
    | other c t none ih =>
        rw [replace_cons none, List.cons_inj_right] at same
        exact ih same ((List.infix_cons_iff.mp inside).resolve_left none)
  · rintro (rfl | absent)
    · exact replace_self filled t
    · exact replace_of_not_infix absent

end Marker

/-! ## Parts that no marker runs into -/

/-- Whatever stands around the text, no occurrence of the marker lies across one of its ends. -/
structure Solid (old x : Text) : Prop where
  start : ∀ l r, Apart old l (x ++ r)
  stop : ∀ r, Apart old x r

theorem Solid.replace {old x : Text} (solid : Solid old x) (new l r : Text) :
    replace old new (l ++ (x ++ r)) = replace old new l ++ (replace old new x ++ replace old new r) := by
  rw [replace_append (solid.start l r), replace_append (solid.stop r)]

/-- No beginning of the text, short of the whole, is also an end of it. -/
def Borderless (old : Text) : Prop := ∀ i < old.length, 0 < i → ¬ old.take i <:+ old

instance (old : Text) : Decidable (Borderless old) :=
  inferInstanceAs (Decidable (∀ i < old.length, 0 < i → ¬ old.take i <:+ old))

theorem Borderless.not_suffix {old b : Text} (borderless : Borderless old) (filled : b ≠ [])
    (shorter : b.length < old.length) (starts : b <+: old) : ¬ b <:+ old := by
  rw [List.prefix_iff_eq_take] at starts
  rw [starts]
  exact borderless b.length shorter (List.length_pos_iff.mpr filled)

theorem Borderless.solid {old : Text} (borderless : Borderless old) : Solid old old where
  start := by
    rintro l r m n left right rfl ⟨-, after⟩
    have shorter : n.length < (m ++ n).length := by simpa using List.length_pos_iff.mpr left
    have starts := List.prefix_of_prefix_length_le after (List.prefix_append (m ++ n) r) shorter.le
    exact borderless.not_suffix right shorter starts (List.suffix_append m n)
  stop := by
    rintro r m n left right rfl ⟨before, -⟩
    have shorter : m.length < (m ++ n).length := by simpa using List.length_pos_iff.mpr right
    exact borderless.not_suffix left shorter (List.prefix_append m n) before

/-- No beginning and no end of the marker, short of the whole, make it whole around the text. -/
def Clear (old x : Text) : Prop :=
  ∀ i < old.length, ∀ j < old.length, ¬ old <:+: old.take i ++ (x ++ old.drop (j + 1))

instance (old x : Text) : Decidable (Clear old x) :=
  inferInstanceAs
    (Decidable (∀ i < old.length, ∀ j < old.length, ¬ old <:+: old.take i ++ (x ++ old.drop (j + 1))))

theorem Clear.not_infix_around {old x m n m' n' : Text} (clear : Clear old x) (front : old = m ++ n) (right : n ≠ [])
    (back : old = m' ++ n') (left : m' ≠ []) : ¬ old <:+: m ++ (x ++ n') := by
  have i : m.length < old.length := by
    rw [front, List.length_append]
    exact Nat.lt_add_of_pos_right (List.length_pos_iff.mpr right)
  have some : 0 < m'.length := List.length_pos_iff.mpr left
  have j : m'.length - 1 < old.length := by
    rw [back, List.length_append]
    omega
  have around := clear m.length i (m'.length - 1) j
  have taken : old.take m.length = m := by rw [front, List.take_left]
  have dropped : old.drop m'.length = n' := by rw [back, List.drop_left]
  rwa [Nat.sub_add_cancel some, taken, dropped] at around

theorem Clear.not_infix {old x : Text} (clear : Clear old x) (filled : old ≠ []) : ¬ old <:+: x := by
  have around := clear.not_infix_around (List.nil_append old).symm filled (List.append_nil old).symm filled
  rwa [List.append_nil, List.nil_append] at around

theorem Clear.solid {old x : Text} (clear : Clear old x) : Solid old x where
  start := by
    rintro l r m n left right whole ⟨-, rest, after⟩
    have filled : old ≠ [] := by simp [whole, left]
    rcases List.append_eq_append_iff.mp after with ⟨k, inside, -⟩ | ⟨k, across, -⟩
    · -- The marker ends inside the text.
      refine clear.not_infix_around whole right (List.append_nil old).symm filled ⟨[], k, ?_⟩
      rw [whole, inside]
      simp
    · -- The marker ends behind the text.
      have back : old = (m ++ x) ++ k := by rw [whole, across, List.append_assoc]
      refine clear.not_infix_around whole right back (by simp [left]) ?_
      rw [back, List.append_assoc]
  stop := by
    rintro r m n left right whole ⟨⟨before, inside⟩, -⟩
    have filled : old ≠ [] := by simp [whole, left]
    refine clear.not_infix_around (List.nil_append old).symm filled whole left ⟨before, [], ?_⟩
    rw [whole, ← inside]
    simp

end SuiteAudit.Text
