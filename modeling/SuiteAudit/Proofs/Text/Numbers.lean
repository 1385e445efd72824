import Mathlib.Logic.Function.Defs
import SuiteAudit.Text.Basic

/-!
# Written numbers

The decimal digits of a number. A text that ends with a number behind a character that is no digit
is read from its end (`append_ofNat_inj`).
-/

namespace SuiteAudit.Text

theorem isDigit_of_mem_ofNat {n : Nat} {c : Char} (member : c ∈ ofNat n) : c.isDigit = true :=
  Nat.isDigit_of_mem_toDigits (by decide) (by decide) member

theorem ofNat_injective : Function.Injective ofNat := by
  intro m n same
  calc
    m = Nat.ofDigitChars 10 (ofNat m) 0 := Nat.ofDigitChars_ten_toDigits.symm
    _ = Nat.ofDigitChars 10 (ofNat n) 0 := by rw [same]
    _ = n := Nat.ofDigitChars_ten_toDigits

theorem not_mem_ofNat {c : Char} (noDigit : c.isDigit = false) (n : Nat) : c ∉ ofNat n := by
  intro member
  have digit := isDigit_of_mem_ofNat member
  simp [digit] at noDigit

theorem append_ofNat_inj {c : Char} (noDigit : c.isDigit = false) {s t : Text} {m n : Nat}
    (same : s ++ c :: ofNat m = t ++ c :: ofNat n) : s = t ∧ m = n := by
  -- If one side went on behind the mark of the other, its number would hold a character that is no
  -- digit.
  have stops {more : Text} {m n : Nat} (rest : c :: ofNat m = more ++ c :: ofNat n) :
      more = [] ∧ m = n := by
    cases more with
    | nil => exact ⟨rfl, ofNat_injective (List.cons.inj rest).2⟩
    | cons d more =>
        have member : c ∈ ofNat m := by simp [(List.cons.inj rest).2]
        exact absurd member (not_mem_ofNat noDigit m)
  rcases List.append_eq_append_iff.mp same with ⟨more, rfl, rest⟩ | ⟨more, rfl, rest⟩
  · obtain ⟨rfl, rfl⟩ := stops rest
    simp
  · obtain ⟨rfl, rfl⟩ := stops rest
    simp

end SuiteAudit.Text
