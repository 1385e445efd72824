import SuiteAudit.Text.Basic

/-!
# Tables over code points

A table gives every code point a value. It lists the stretches of code points that share one, and is
written as text: the length of a stretch in hexadecimal digits, then the code of its value, which
starts with a capital letter.
-/

namespace SuiteAudit.Text

/-- A maximal stretch of code points with one value, which ends before `stop`. -/
structure Run (α : Type) where
  stop : Nat
  value : α

namespace Run

variable {α : Type}

/-- What is read so far of a table: the number before the cursor, the letters of a code in reverse,
where the last run stopped, and the runs from the last to the first. -/
structure Reading (α : Type) where
  number : Nat := 0
  letters : Text := []
  stop : Nat := 0
  runs : List (Run α) := []

def Reading.read (size : Nat) (value : Text → α) (r : Reading α) (c : Char) : Reading α :=
  if r.letters.isEmpty && !c.isUpper then
    let digit := if c.isDigit then c.toNat - '0'.toNat else c.toNat - 'a'.toNat + 10
    { r with number := 16 * r.number + digit }
  else
    let letters := c :: r.letters
    if letters.length = size then
      let stop := r.stop + r.number
      { stop, runs := ⟨stop, value letters.reverse⟩ :: r.runs }
    else { r with letters }

/-- The runs of a table whose codes have `size` letters and stand for the given values. -/
def ofTable (size : Nat) (value : Text → α) (rows : List String) : List (Run α) :=
  (rows.foldl (fun r (row : String) => row.foldl (Reading.read size value) r) {}).runs.reverse

/-- The value of a code point, which is `default` beyond the last run. -/
def valueAt (runs : List (Run α)) (default : α) (n : Nat) : α :=
  ((runs.find? fun r => n < r.stop).map Run.value).getD default

/-- The runs of a table with the codes `Y`, for members, and `N`. -/
def members (rows : List String) : List (Run Bool) := ofTable 1 (· == ['Y']) rows

def holds (runs : List (Run Bool)) (c : Char) : Bool := valueAt runs false c.toNat

end Run

def within (stretches : List (Nat × Nat)) (c : Char) : Bool :=
  stretches.any fun (a, b) => a ≤ c.toNat && c.toNat ≤ b

end SuiteAudit.Text
