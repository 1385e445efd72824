import Mathlib.Algebra.GroupWithZero.Nat
import Mathlib.Data.List.Basic
import SuiteAudit.ScoreCard

/-!
# Guarded operations

The operations that have no result for some arguments, each with the fault that it ends in then:
sums that must fit a score, differences of counters, positions and stretches of lists, and cuts of
texts, whose places are counted in bytes. Line numbers and counts of things in memory are not
bounded here.
-/

namespace SuiteAudit

/-- Why a guarded operation has no result. -/
inductive Fault
  /-- A sum is too large for a score. -/
  | overflow
  /-- A counter would fall below zero. -/
  | underflow
  /-- A list has no such position. -/
  | position
  /-- A text cannot be cut inside of a character or after its end. -/
  | cut
  /-- A loop does not come to an end. -/
  | endless
deriving DecidableEq, Repr

namespace Guarded

variable {α β : Type}

/-- The sum of two scores. -/
def add (m n : Nat) : Except Fault Nat := if m + n ≤ maxScore then .ok (m + n) else .error .overflow

/-- The difference of two counters. -/
def sub (m n : Nat) : Except Fault Nat := if n ≤ m then .ok (m - n) else .error .underflow

/-- The element at a position. -/
def get (xs : List α) (i : Nat) : Except Fault α := (xs[i]?).elim (.error .position) .ok

/-- The elements from position `i` to before position `j`. -/
def slice (xs : List α) (i j : Nat) : Except Fault (List α) :=
  if i ≤ j ∧ j ≤ xs.length then .ok ((xs.take j).drop i) else .error .position

/-- How many bytes a text takes. -/
def size (t : Text) : Nat := (t.map Char.utf8Size).sum

/-- The text before and after the given number of bytes. -/
def cut : Text → Nat → Except Fault (Text × Text)
  | t, 0 => .ok ([], t)
  | [], _ + 1 => .error .cut
  | c :: t, n + 1 =>
    if c.utf8Size ≤ n + 1 then (cut t (n + 1 - c.utf8Size)).map fun s => (c :: s.1, s.2)
    else .error .cut

/-- The text from byte `i` to before byte `j`. -/
def part (t : Text) (i j : Nat) : Except Fault Text := do
  let (before, _) ← cut t j
  let (_, between) ← cut before i
  return between

/-- Where the needle stands in a text that starts at the given byte, from the first place on. -/
def places (needle : Text) (offset : Nat) : Text → List Nat
  | [] => []
  | c :: t =>
    if needle.isPrefixOf (c :: t) then offset :: places needle (offset + c.utf8Size) t
    else places needle (offset + c.utf8Size) t

@[simp]
theorem ok_bind (a : α) (f : α → Except Fault β) : (Except.ok a >>= f) = f a := rfl

theorem mapM_ok {f : α → Except Fault β} {g : α → β} {xs : List α}
    (ok : ∀ x ∈ xs, f x = .ok (g x)) : xs.mapM f = .ok (xs.map g) := by
  induction xs with
  | nil => rfl
  | cons x xs ih =>
      rw [List.mapM_cons, ok x List.mem_cons_self, ok_bind,
        ih fun y mem => ok y (List.mem_cons_of_mem x mem)]
      rfl

theorem sub_of_le {m n : Nat} (le : n ≤ m) : sub m n = .ok (m - n) := if_pos le

theorem get_append (before after : List α) (x : α) :
    get (before ++ x :: after) before.length = .ok x := by
  simp [get]

theorem slice_append (before between after : List α) :
    slice (before ++ between ++ after) before.length (before.length + between.length) =
      .ok between := by
  rw [slice, if_pos (by simp), ← List.length_append, List.take_left, List.drop_left]

theorem slice_take {xs : List α} {n : Nat} (le : n ≤ xs.length) : slice xs 0 n = .ok (xs.take n) := by
  rw [slice, if_pos ⟨Nat.zero_le n, le⟩, List.drop_zero]

theorem slice_drop {xs : List α} {n : Nat} (le : n ≤ xs.length) :
    slice xs n xs.length = .ok (xs.drop n) := by
  rw [slice, if_pos ⟨le, Nat.le_refl _⟩, List.take_length]

@[simp]
theorem size_nil : size [] = 0 := rfl

@[simp]
theorem size_cons (c : Char) (t : Text) : size (c :: t) = c.utf8Size + size t := by simp [size]

@[simp]
theorem size_append (s t : Text) : size (s ++ t) = size s + size t := by simp [size]

theorem cut_append (before after : Text) :
    cut (before ++ after) (size before) = .ok (before, after) := by
  induction before with
  | nil => cases after <;> rfl
  | cons c before ih =>
      have positive : c.utf8Size + size before = c.utf8Size + size before - 1 + 1 := by
        have := c.utf8Size_pos
        omega
      rw [List.cons_append, size_cons, positive, cut, ← positive, if_pos (Nat.le_add_right _ _),
        Nat.add_sub_cancel_left, ih]
      rfl

theorem part_of_eq {t : Text} {i j : Nat} (before between after : Text)
    (split : t = before ++ between ++ after) (start : i = size before)
    (stop : j = size before + size between) : part t i j = .ok between := by
  subst split start stop
  rw [part, ← size_append, cut_append, ok_bind]
  simp only [cut_append, ok_bind]
  rfl

end Guarded

end SuiteAudit
