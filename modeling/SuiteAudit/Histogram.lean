import SuiteAudit.Register
import SuiteAudit.Text.Basic

/-!
# Histograms

How often phrases occur, in the order in which they were first seen. That no phrase has two entries
is part of every histogram, and the instances below keep it so under the operations.
-/

namespace SuiteAudit

class DistinctPhrases (entries : List (Text × Nat)) : Prop where
  nodup : (entries.map Prod.fst).Nodup

instance DistinctPhrases.nil : DistinctPhrases [] := ⟨List.nodup_nil⟩

structure Histogram where
  entries : List (Text × Nat) := []
  [distinct : DistinctPhrases entries]
deriving DecidableEq, Repr

attribute [instance] Histogram.distinct

namespace Histogram

def addTo (phrase : Text) (n : Nat) : List (Text × Nat) → List (Text × Nat)
  | [] => [(phrase, n)]
  | (p, m) :: es => if p = phrase then (p, m + n) :: es else (p, m) :: addTo phrase n es

theorem phrases_addTo (phrase : Text) (n : Nat) (entries : List (Text × Nat)) :
    (addTo phrase n entries).map Prod.fst =
      if phrase ∈ entries.map Prod.fst then entries.map Prod.fst
      else entries.map Prod.fst ++ [phrase] := by
  induction entries with
  | nil => rfl
  | cons e entries ih =>
      obtain ⟨p, m⟩ := e
      by_cases same : p = phrase
      · simp [addTo, same]
      · have other : phrase ≠ p := fun equal => same equal.symm
        simp only [addTo, if_neg same, List.map_cons, ih, List.mem_cons, other, false_or]
        split <;> rfl

instance distinct_addTo (phrase : Text) (n : Nat) (entries : List (Text × Nat))
    [distinct : DistinctPhrases entries] : DistinctPhrases (addTo phrase n entries) := by
  refine ⟨?_⟩
  rw [phrases_addTo]
  split
  case isTrue seen => exact distinct.nodup
  case isFalse fresh =>
    refine List.nodup_append.mpr ⟨distinct.nodup, by simp, fun p member q last => ?_⟩
    rw [List.mem_singleton.mp last]
    rintro rfl
    exact fresh member

def add (h : Histogram) (phrase : Text) (n : Nat) : Histogram := ⟨addTo phrase n h.entries⟩

def increment (h : Histogram) (phrase : Text) : Histogram := h.add phrase 1

def count (h : Histogram) (phrase : Text) : Nat :=
  ((h.entries.find? fun e => e.1 = phrase).map Prod.snd).getD 0

def occurs (h : Histogram) (phrase : Text) : Bool := 0 < h.count phrase

def total (h : Histogram) : Nat := h.entries.foldr (fun e n => e.2 + n) 0

def addAll (h : Histogram) (entries : List (Text × Nat)) : Histogram :=
  entries.foldl (fun h (p, n) => h.add p n) h

/-- The histogram of entries in which a phrase may be repeated. -/
def ofList (entries : List (Text × Nat)) : Histogram := addAll {} entries

def merge (h g : Histogram) : Histogram := h.addAll g.entries

/-- The entries by falling count. Phrases of equal count keep their order. -/
def byCount (h : Histogram) : List (Text × Nat) := h.entries.mergeSort fun a b => b.2 ≤ a.2

theorem byCount_perm (h : Histogram) : h.byCount.Perm h.entries := List.mergeSort_perm _ _

instance distinct_byCount (h : Histogram) : DistinctPhrases h.byCount :=
  ⟨(h.byCount_perm.map Prod.fst).nodup_iff.mpr h.distinct.nodup⟩

def fits (h : Histogram) : Bool := h.total ≤ maxWord

end Histogram

end SuiteAudit
