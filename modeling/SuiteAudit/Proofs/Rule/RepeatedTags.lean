import Mathlib.Data.List.Nodup
import SuiteAudit.Rule.Check

/-!
# Repeated tags

A tag is reported where it stands for the second time and nowhere else. Whatever came before, the tags that were
seen are those that occurred, and the tags that were reported are those that occurred twice (`Scanned`). So what is
reported is a filter of the positions (`repeatedFrom_eq`), from which it has its order.
-/

namespace SuiteAudit.Check

/-! ## Second occurrences -/

/-- The tag stands at the position, and once before it. -/
def SecondAt (tags : List Text) (tag : Text) (i : Nat) : Prop :=
  tags[i]? = some tag ∧ (tags.take i).count tag = 1

namespace SecondAt

variable {tags : List Text} {tag : Text} {i j : Nat}

theorem count_take_succ (second : SecondAt tags tag i) : (tags.take (i + 1)).count tag = 2 := by
  rw [List.take_add_one, second.1, Option.toList_some, List.count_append, second.2, List.count_singleton_self]

theorem le (second : SecondAt tags tag i) (other : SecondAt tags tag j) : j ≤ i := by
  by_contra later
  have within : (tags.take (i + 1)).count tag ≤ (tags.take j).count tag :=
    (List.take_sublist_take_left (Nat.not_le.mp later)).count_le tag
  rw [second.count_take_succ, other.2] at within
  omega

end SecondAt

theorem exists_secondAt {tags : List Text} {tag : Text} :
    (∃ i, SecondAt tags tag i) ↔ 2 ≤ tags.count tag := by
  constructor
  · rintro ⟨i, second⟩
    rw [← second.count_take_succ]
    exact (List.take_sublist _ _).count_le tag
  · intro twice
    -- The list is cut at the first occurrence, and what follows at the next one.
    have member : tag ∈ tags := List.count_pos_iff.mp (by omega)
    obtain ⟨before, rest, rfl, absent⟩ := List.eq_append_cons_of_mem member
    rw [List.count_append, List.count_eq_zero.mpr absent, List.count_cons_self] at twice
    have again : tag ∈ rest := List.count_pos_iff.mp (by omega)
    obtain ⟨between, after, rfl, absent'⟩ := List.eq_append_cons_of_mem again
    have cut : before ++ tag :: (between ++ tag :: after) = (before ++ tag :: between) ++ tag :: after := by simp
    refine ⟨(before ++ tag :: between).length, ?_, ?_⟩
    · rw [cut, List.getElem?_append_right (Nat.le_refl _), Nat.sub_self, List.getElem?_cons_zero]
    · rw [cut, List.take_left, List.count_append, List.count_cons_self, List.count_eq_zero.mpr absent,
        List.count_eq_zero.mpr absent']

/-- The second occurrences among the tags that come after others, with their positions. -/
def secondsAfter (before tags : List Text) : List (Text × Nat) :=
  (tags.zipIdx before.length).filter fun e => ((before ++ tags).take e.2).count e.1 == 1

theorem mem_secondsAfter_nil {tags : List Text} {e : Text × Nat} :
    e ∈ secondsAfter [] tags ↔ SecondAt tags e.1 e.2 := by
  rw [secondsAfter, List.mem_filter, List.length_nil, List.mem_zipIdx_iff_getElem?, List.nil_append, beq_iff_eq,
    SecondAt]

theorem secondsAfter_cons (before : List Text) (t : Text) (tags : List Text) :
    secondsAfter before (t :: tags) =
      (if before.count t = 1 then [(t, before.length)] else []) ++ secondsAfter (before ++ [t]) tags := by
  simp only [secondsAfter, List.zipIdx_cons, List.filter_cons, List.take_left, beq_iff_eq, List.length_append,
    List.length_singleton, List.append_assoc, List.singleton_append]
  split <;> rfl

theorem pairwise_secondsAfter (before tags : List Text) :
    (secondsAfter before tags).Pairwise fun e f => e.2 < f.2 := by
  have positions : (tags.zipIdx before.length).Pairwise fun e f => e.2 < f.2 := by
    rw [← List.pairwise_map, List.zipIdx_map_snd]
    exact List.pairwise_lt_range'
  exact positions.sublist List.filter_sublist

/-! ## One tag after the other -/

/-- What is known of the tags that came before: those that occurred and those that occurred twice. -/
structure Scanned (before seen reported : List Text) : Prop where
  mem_seen : ∀ tag, tag ∈ seen ↔ 1 ≤ before.count tag
  mem_reported : ∀ tag, tag ∈ reported ↔ 2 ≤ before.count tag

namespace Scanned

theorem nil : Scanned [] [] [] := ⟨by simp, by simp⟩

/-- One more tag is seen from now on, and reported if it was seen before. -/
theorem step {before seen reported seen' reported' : List Text} {t : Text}
    (scanned : Scanned before seen reported) (seeing : ∀ tag, tag ∈ seen' ↔ tag = t ∨ tag ∈ seen)
    (reporting : ∀ tag, tag ∈ reported' ↔ tag = t ∧ t ∈ seen ∨ tag ∈ reported) :
    Scanned (before ++ [t]) seen' reported' := by
  have own : (before ++ [t]).count t = before.count t + 1 := by
    rw [List.count_append, List.count_singleton_self]
  have other {tag : Text} (differs : tag ≠ t) : (before ++ [t]).count tag = before.count tag := by
    have none : [t].count tag = 0 := List.count_eq_zero.mpr (by simpa using differs)
    rw [List.count_append, none, Nat.add_zero]
  constructor
  · intro tag
    rw [seeing, scanned.mem_seen]
    by_cases same : tag = t
    · simp [same, own]
    · simp [same, other same]
  · intro tag
    rw [reporting, scanned.mem_reported, scanned.mem_seen]
    by_cases same : tag = t
    · rw [same, own]
      simp only [true_and]
      omega
    · simp [same, other same]

end Scanned

theorem repeatedFrom_eq {before seen reported : List Text} (scanned : Scanned before seen reported)
    (tags : List Text) :
    repeatedFrom seen reported tags = (secondsAfter before tags).map Prod.fst := by
  induction tags generalizing before seen reported with
  | nil => rfl
  | cons t tags ih =>
      rw [repeatedFrom, secondsAfter_cons]
      -- Each branch goes on with what is known of one tag more, and only the second one reports.
      obtain none | once | twice : before.count t = 0 ∨ before.count t = 1 ∨ 2 ≤ before.count t := by omega
      · have new : t ∉ seen := (scanned.mem_seen t).not.mpr (by omega)
        have next : Scanned (before ++ [t]) (t :: seen) reported := scanned.step (by simp) (by simp [new])
        simp [new, none, ih next]
      · have old : t ∈ seen := (scanned.mem_seen t).mpr (by omega)
        have untold : t ∉ reported := (scanned.mem_reported t).not.mpr (by omega)
        have next : Scanned (before ++ [t]) seen (t :: reported) := scanned.step (by simp [old]) (by simp [old])
        simp [old, untold, once, ih next]
      · have old : t ∈ seen := (scanned.mem_seen t).mpr (by omega)
        have told : t ∈ reported := (scanned.mem_reported t).mpr twice
        have other : before.count t ≠ 1 := by omega
        have next : Scanned (before ++ [t]) seen reported := scanned.step (by simp [old]) (by simp [told])
        simp [old, told, other, ih next]

/-! ## The tags that are reported -/

theorem repeated_eq (tags : List Text) : repeated tags = (secondsAfter [] tags).map Prod.fst :=
  repeatedFrom_eq .nil tags

theorem mem_repeated {tags : List Text} {tag : Text} : tag ∈ repeated tags ↔ ∃ i, SecondAt tags tag i := by
  rw [repeated_eq, List.mem_map]
  constructor
  · rintro ⟨e, member, rfl⟩
    exact ⟨e.2, mem_secondsAfter_nil.mp member⟩
  · rintro ⟨i, second⟩
    exact ⟨(tag, i), mem_secondsAfter_nil.mpr second, rfl⟩

theorem pairwise_repeated (tags : List Text) :
    (repeated tags).Pairwise fun a b => ∃ i j, SecondAt tags a i ∧ SecondAt tags b j ∧ i < j := by
  rw [repeated_eq, List.pairwise_map]
  refine (pairwise_secondsAfter [] tags).imp_of_mem fun first second less => ?_
  exact ⟨_, _, mem_secondsAfter_nil.mp first, mem_secondsAfter_nil.mp second, less⟩

/-- The repeated tags are those that occur at least twice, each once, in the order of their second occurrences. -/
theorem repeated_secondOccurrences (tags : List Text) :
    (∀ tag, tag ∈ repeated tags ↔ 2 ≤ tags.count tag) ∧
      (repeated tags).Nodup ∧
      (repeated tags).Pairwise fun a b => ∃ i j, SecondAt tags a i ∧ SecondAt tags b j ∧ i < j := by
  refine ⟨fun tag => mem_repeated.trans exists_secondAt, ?_, pairwise_repeated tags⟩
  refine (pairwise_repeated tags).imp ?_
  rintro a _ ⟨i, j, first, second, less⟩ rfl
  exact absurd (first.le second) (Nat.not_le.mpr less)

example : repeated ["@a", "@b", "@c", "@b", "@b", "@a"] = (["@b", "@a"] : List Text) := by decide

end SuiteAudit.Check
