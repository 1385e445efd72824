import Mathlib.Data.List.Infix
import SuiteAudit.Text.Basic

/-!
# Scanning a text

A scan that looks at nothing before a place reads what is behind an item as a text of its own
(`scanFrom_skip`), and a text whose items all end in it can be scanned apart from what follows it
(`scanFrom_append`). For a text some of whose parts are replaced this says what becomes of a part
(`replaceEach_found`), of a character between the parts (`replaceEach_cons`) and of two texts with
no part across their border (`replaceEach_append`).
-/

namespace SuiteAudit.Text

section Scan

variable {α : Type} (step : Text → List α × Nat)

theorem scanFrom_skip (before : Option Char) (head t : Text) :
    scanFrom (fun _ => step) before head.length (head ++ t) =
      scanFrom (fun _ => step) none 0 t := by
  induction head generalizing before with
  | nil => cases t <;> rfl
  | cons c head ih => exact ih (some c)

theorem scanFrom_append {s t : Text} {skip : Nat} (bound : skip ≤ s.length)
    (inside : ∀ u, u ≠ [] → u <:+ s → step (u ++ t) = step u ∧ (step u).2 < u.length)
    (before : Option Char) :
    scanFrom (fun _ => step) before skip (s ++ t) =
      scanFrom (fun _ => step) before skip s ++ scanFrom (fun _ => step) none 0 t := by
  -- An item that starts in `s` ends there, so no more than `s` is ever skipped.
  induction s generalizing before skip with
  | nil =>
      obtain rfl := Nat.le_zero.mp bound
      cases t <;> rfl
  | cons c s ih =>
      have later : ∀ u, u ≠ [] → u <:+ s → step (u ++ t) = step u ∧ (step u).2 < u.length :=
        fun u filled suffix => inside u filled (suffix.trans (List.suffix_cons c s))
      cases skip with
      | succ skip => exact ih (Nat.le_of_succ_le_succ bound) later (some c)
      | zero =>
          obtain ⟨same, ends⟩ := inside (c :: s) (by simp) List.suffix_rfl
          rw [List.cons_append] at same
          simp only [List.cons_append, scanFrom, same]
          rw [ih (Nat.le_of_lt_succ ends) later, List.append_assoc]

end Scan

/-! ## Replaced parts -/

section Parts

variable {find : Text → Option (Text × Nat)}

theorem replaceEach_found {head t new : Text} (filled : head ≠ [])
    (found : find (head ++ t) = some (new, head.length)) :
    replaceEach find (head ++ t) = new ++ replaceEach find t := by
  obtain ⟨c, head, rfl⟩ := List.exists_cons_of_ne_nil filled
  rw [List.cons_append] at found ⊢
  simp only [replaceEach, scanFrom, replaceFirst, found]
  exact congrArg (new ++ ·) (scanFrom_skip (replaceFirst find) (some c) head t)

theorem replaceEach_cons {c : Char} {t : Text} (missed : find (c :: t) = none) :
    replaceEach find (c :: t) = c :: replaceEach find t := by
  simp only [replaceEach, scanFrom, replaceFirst, missed]
  exact congrArg (c :: ·) (scanFrom_skip (replaceFirst find) (some c) [] t)

theorem replaceEach_eq_self {t : Text} (missed : ∀ u, u ≠ [] → u <:+ t → find u = none) :
    replaceEach find t = t := by
  induction t with
  | nil => rfl
  | cons c t ih =>
      rw [replaceEach_cons (missed _ (by simp) List.suffix_rfl),
        ih fun u filled suffix => missed u filled (suffix.trans (List.suffix_cons c t))]

theorem replaceEach_append {s t : Text}
    (inside : ∀ u, u ≠ [] → u <:+ s → find (u ++ t) = find u ∧ ∀ e ∈ find u, e.2 ≤ u.length) :
    replaceEach find (s ++ t) = replaceEach find s ++ replaceEach find t := by
  refine scanFrom_append (replaceFirst find) (Nat.zero_le _) (fun u filled suffix => ?_) none
  obtain ⟨same, ends⟩ := inside u filled suffix
  have some : 0 < u.length := List.length_pos_iff.mpr filled
  simp only [replaceFirst, same]
  cases found : find u with
  | none =>
      refine ⟨?_, some⟩
      simp [List.take_append_of_le_length some]
  | some e =>
      obtain ⟨new, n⟩ := e
      have bound : n ≤ u.length := ends (new, n) found
      refine ⟨rfl, ?_⟩
      dsimp only
      omega

end Parts

end SuiteAudit.Text
