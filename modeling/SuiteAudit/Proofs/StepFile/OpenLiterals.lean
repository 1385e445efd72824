import SuiteAudit.Proofs.StepFile.NestedLines

/-!
# Open literals

What a body calls is decided by its lines alone: a call in quotes and the opening of a literal count
wherever they stand, a step and a closing count inside a literal. A line is inside a literal if a line
above it opens one and no line between the two closes it (`CallLine.InLiteral`).
-/

namespace SuiteAudit

namespace CallLine

/-- Whether what the line carries is called wherever the line stands. -/
def standsAlone : CallLine → Bool
  | call _ | opening _ => true
  | inner _ | closing _ | other => false

def opens : CallLine → Bool
  | opening _ => true
  | call _ | inner _ | closing _ | other => false

def closes : CallLine → Bool
  | closing _ => true
  | call _ | opening _ | inner _ | other => false

/-- Line `i` of a body is inside a literal: a line above it opens one, and none between them closes
it. -/
def InLiteral (body : List Text) (i : Nat) : Prop :=
  ∃ j < i, (∃ line ∈ body[j]?, (ofLine line).opens = true) ∧
    ∀ k < i, j < k → ∀ line ∈ body[k]?, (ofLine line).closes = false

instance (body : List Text) (i : Nat) : Decidable (InLiteral body i) :=
  inferInstanceAs (Decidable (∃ j < i, (∃ line ∈ body[j]?, (ofLine line).opens = true) ∧
    ∀ k < i, j < k → ∀ line ∈ body[k]?, (ofLine line).closes = false))

/-! ## One line -/

theorem step_calls {inLiteral : Bool} {line : CallLine} {t : Text} :
    (step inLiteral line).2 = some t ↔
      line.text? = some t ∧ (line.standsAlone = true ∨ inLiteral = true) := by
  cases line with
  | call u => simp [step, text?, standsAlone]
  | opening u => simp [step, text?, standsAlone]
  | inner u => cases inLiteral <;> simp [step, text?, standsAlone]
  | closing u => cases inLiteral <;> simp [step, text?, standsAlone]
  | other => simp [step, text?]

theorem step_inLiteral (inLiteral : Bool) (line : CallLine) :
    (step inLiteral line).1 = true ↔
      line.opens = true ∨ line.closes = false ∧ inLiteral = true := by
  cases line <;> simp [step, opens, closes]

/-- The same for the condition on all lines above. -/
theorem inLiteral_succ {body : List Text} {i : Nat} {line : Text} (here : body[i]? = some line) :
    InLiteral body (i + 1) ↔
      (ofLine line).opens = true ∨ (ofLine line).closes = false ∧ InLiteral body i := by
  constructor
  · rintro ⟨j, below, ⟨opening, found, opened⟩, kept⟩
    rcases Nat.lt_succ_iff_lt_or_eq.mp below with earlier | rfl
    · refine .inr ⟨kept i (Nat.lt_succ_self i) earlier line here, j, earlier,
        ⟨opening, found, opened⟩, fun k before => kept k (Nat.lt_succ_of_lt before)⟩
    · obtain rfl : line = opening := Option.some.inj (here.symm.trans found)
      exact .inl opened
  · rintro (opened | ⟨unclosed, j, earlier, opening, kept⟩)
    · exact ⟨i, Nat.lt_succ_self i, ⟨line, here, opened⟩, fun k before after => by omega⟩
    · refine ⟨j, Nat.lt_succ_of_lt earlier, opening, fun k before after found there => ?_⟩
      rcases Nat.lt_succ_iff_lt_or_eq.mp before with earlier | rfl
      · exact kept k earlier after found there
      · obtain rfl : line = found := Option.some.inj (here.symm.trans there)
        exact unclosed

/-! ## All lines -/

/-- Whether a literal is open after the lines. -/
def openAfter (inLiteral : Bool) (body : List Text) : Bool :=
  body.foldl (fun inLiteral line => (step inLiteral (ofLine line)).1) inLiteral

theorem openAfter_take {body : List Text} {i : Nat} (bound : i ≤ body.length) :
    openAfter false (body.take i) = true ↔ InLiteral body i := by
  induction i with
  | zero => simp [openAfter, InLiteral]
  | succ i ih =>
      have here : body[i]? = some body[i] := List.getElem?_eq_getElem bound
      rw [inLiteral_succ here, ← ih (Nat.le_of_lt bound), openAfter, List.take_add_one, here]
      simp only [Option.toList_some, List.foldl_append, List.foldl_cons, List.foldl_nil]
      exact step_inLiteral _ _

theorem mem_callsFrom_iff {inLiteral : Bool} {n : Nat} {body : List Text} {e : Nat × Text} :
    e ∈ callsFrom inLiteral n body ↔ ∃ i line, body[i]? = some line ∧ e.1 = n + i ∧
      (step (openAfter inLiteral (body.take i)) (ofLine line)).2 = some e.2 := by
  induction body generalizing inLiteral n with
  | nil => simp [callsFrom]
  | cons first body ih =>
      simp only [callsFrom, List.mem_append, Option.mem_toList, Option.map_eq_some_iff, ih]
      constructor
      · rintro (⟨t, called, rfl⟩ | ⟨i, line, here, place, called⟩)
        · exact ⟨0, first, rfl, rfl, called⟩
        · exact ⟨i + 1, line, here, by omega, called⟩
      · rintro ⟨i, line, here, place, called⟩
        cases i with
        | zero =>
            obtain rfl : first = line := Option.some.inj here
            exact .inl ⟨e.2, called, Prod.ext place.symm rfl⟩
        | succ i => exact .inr ⟨i, line, here, by omega, called⟩

end CallLine

theorem mem_nestedCalls {body : List Text} {e : Nat × Text} :
    e ∈ nestedCalls body ↔ ∃ i line, body[i]? = some line ∧ e.1 = i + 1 ∧
      (CallLine.ofLine line).text? = some e.2 ∧
      ((CallLine.ofLine line).standsAlone = true ∨ CallLine.InLiteral body i) := by
  rw [nestedCalls, CallLine.mem_callsFrom_iff]
  refine exists_congr fun i => exists_congr fun line => and_congr_right fun here => ?_
  have bound : i ≤ body.length := Nat.le_of_lt (List.getElem?_eq_some_iff.mp here).1
  rw [CallLine.step_calls, CallLine.openAfter_take bound, Nat.add_comm 1 i]

theorem mem_nestedAt {anchor : Location} {body : List Text} {location : Location} {t : Text} :
    (location, t) ∈ nestedAt anchor body ↔
      ∃ i line, body[i]? = some line ∧ location = ⟨anchor.file, anchor.line + (i + 1)⟩ ∧
        (CallLine.ofLine line).text? = some t ∧
        ((CallLine.ofLine line).standsAlone = true ∨ CallLine.InLiteral body i) := by
  rw [nestedAt, List.mem_map]
  constructor
  · rintro ⟨⟨n, u⟩, called, same⟩
    obtain ⟨rfl, rfl⟩ := Prod.mk.inj same
    obtain ⟨i, line, here, rfl, carried⟩ := mem_nestedCalls.mp called
    exact ⟨i, line, here, rfl, carried⟩
  · rintro ⟨i, line, here, rfl, carried⟩
    exact ⟨(i + 1, t), mem_nestedCalls.mpr ⟨i, line, here, rfl, carried⟩, rfl⟩

theorem nestedAt_pairwise (anchor : Location) (body : List Text) :
    (nestedAt anchor body).Pairwise fun a b => a.1.line < b.1.line := by
  have numbers : (nestedCalls body).Pairwise fun a b => a.1 < b.1 :=
    List.pairwise_map.mp ((List.pairwise_lt_range' 1).sublist (nestedCalls_numbers body))
  refine List.pairwise_map.mpr (numbers.imp fun less => ?_)
  exact Nat.add_lt_add_left less anchor.line

theorem nestedAt?_of_le {anchor : Location} {body : List Text}
    (fits : anchor.line + body.length ≤ maxWord) :
    nestedAt? anchor body = .ok (nestedAt anchor body) := by
  refine if_pos (List.all_eq_true.mpr fun e member => ?_)
  obtain ⟨i, line, here, place, -⟩ := mem_nestedAt.mp member
  have bound := (List.getElem?_eq_some_iff.mp here).1
  rw [place, decide_eq_true_eq]
  simp only
  omega

/-- The nested calls of a body are what its lines carry, except for steps and closings outside of
literals, each on its own line below the anchor and in the order of the body. -/
theorem nestedAt_called (anchor : Location) (body : List Text) :
    (∀ (location : Location) (t : Text), (location, t) ∈ nestedAt anchor body ↔
      ∃ i line, body[i]? = some line ∧ location = ⟨anchor.file, anchor.line + (i + 1)⟩ ∧
        (CallLine.ofLine line).text? = some t ∧
        ((CallLine.ofLine line).standsAlone = true ∨ CallLine.InLiteral body i)) ∧
      (nestedAt anchor body).Pairwise (fun a b => a.1.line < b.1.line) ∧
      (anchor.line + body.length ≤ maxWord →
        nestedAt? anchor body = .ok (nestedAt anchor body)) :=
  ⟨fun _ _ => mem_nestedAt, nestedAt_pairwise anchor body, nestedAt?_of_le⟩

/-- Steps before, inside and after literals, of which one is opened twice and one is never closed. -/
def strayLines : List Text :=
  ["Given a", "steps %Q\x7b", "And b", "steps %Q\x7bThen c", "And d \x7d", "But e", "\x7d",
    "steps %\x7b", "When f"]

theorem nestedAt_called_stray :
    let anchor : Location := ⟨⟨"cart.rb"⟩, 10⟩
    ((nestedAt anchor strayLines).map fun e => (e.1.line, e.2)) =
        [(13, ['b']), (14, ['c']), (15, ['d']), (19, ['f'])] ∧
      (¬CallLine.InLiteral strayLines 0 ∧ CallLine.InLiteral strayLines 4 ∧
        ¬CallLine.InLiteral strayLines 5 ∧ CallLine.InLiteral strayLines 8) ∧
      (⟨⟨"cart.rb"⟩, 15⟩, ['d']) ∈ nestedAt anchor strayLines ∧
      nestedAt? anchor strayLines = .ok (nestedAt anchor strayLines) := by
  intro anchor
  obtain ⟨called, -, completes⟩ := nestedAt_called anchor strayLines
  refine ⟨by decide +kernel, by decide +kernel, ?_, completes (by decide)⟩
  have inside : CallLine.InLiteral strayLines 4 := by decide +kernel
  exact (called _ _).mpr ⟨4, "And d \x7d", rfl, rfl, by decide +kernel, .inr inside⟩

end SuiteAudit
