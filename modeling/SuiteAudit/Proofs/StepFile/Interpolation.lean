import SuiteAudit.Proofs.Text.Scan
import SuiteAudit.StepFile.NestedCall

/-!
# Marks and groups

A text is cut at the first mark of an interpolation whose braces close, and what follows is cut in
the same way.
-/

namespace SuiteAudit

namespace Piece

theorem balanced?_eq_some {depth : Nat} {t group rest : Text}
    (found : balanced? depth t = some (group, rest)) :
    t = group ++ rest ∧ ∃ inner, group = inner ++ ['\x7d'] := by
  induction t generalizing depth group with
  | nil => cases found
  | cons c t ih =>
      have longer {depth : Nat} (found : (balanced? depth t).map
          (fun s => (c :: s.1, s.2)) = some (group, rest)) :
          c :: t = group ++ rest ∧ ∃ inner, group = inner ++ ['\x7d'] := by
        obtain ⟨⟨tail, after⟩, below, same⟩ := Option.map_eq_some_iff.mp found
        cases same
        obtain ⟨split, inner, closed⟩ := ih below
        exact ⟨congrArg (c :: ·) split, c :: inner, congrArg (c :: ·) closed⟩
      simp only [balanced?] at found
      split at found
      · exact longer found
      · split at found
        case isTrue brace =>
          split at found
          · cases found
            exact ⟨rfl, [], congrArg (· :: []) brace⟩
          · exact longer found
        case isFalse => exact longer found

/-- A plain stretch, unless it is empty. -/
def ofPlain (t : Text) : List Piece := if t.isEmpty then [] else [plain t]

/-- What stands before and after the first mark of an interpolation. -/
def firstMark? : Text → Option (Text × Text)
  | [] => none
  | '#' :: '\x7b' :: t => some ([], t)
  | c :: t => (firstMark? t).map fun s => (c :: s.1, s.2)

theorem firstMark?_eq_some {t before after : Text} (found : firstMark? t = some (before, after)) :
    t = before ++ '#' :: '\x7b' :: after := by
  fun_induction firstMark? t generalizing before with
  | case1 => cases found
  | case2 t => cases found; rfl
  | case3 c t _ ih =>
      obtain ⟨⟨head, rest⟩, below, same⟩ := Option.map_eq_some_iff.mp found
      cases same
      exact congrArg (c :: ·) (ih below)

theorem split_mark (t : Text) :
    split ('#' :: '\x7b' :: t) = match balanced? 1 t with
      | none => [plain ('#' :: '\x7b' :: t)]
      | some (group, rest) => interpolation ('#' :: '\x7b' :: group) :: split rest := by
  rw [split, Text.scanFrom, first]
  cases balance : balanced? 1 t with
  | none =>
      have behind := Text.scanFrom_skip first (some '#') ('\x7b' :: t) []
      rw [List.append_nil, List.length_cons] at behind
      simp only [behind]
      rfl
  | some s =>
      obtain ⟨group, rest⟩ := s
      obtain ⟨rfl, -⟩ := balanced?_eq_some balance
      have behind := Text.scanFrom_skip first (some '#') ('\x7b' :: group) rest
      rw [List.length_cons, List.cons_append] at behind
      simp only [behind]
      rfl

theorem split_cons {c : Char} {t : Text} (other : ∀ rest, c = '#' → t ≠ '\x7b' :: rest) :
    split (c :: t) = consPlain (plain [c]) (split t) := by
  have alone : first (c :: t) = ([plain [c]], 0) := by
    rw [first.eq_def]
    split <;> simp_all
  have behind := Text.scanFrom_skip first (some c) [] t
  rw [List.nil_append, List.length_nil] at behind
  rw [split, Text.scanFrom, alone]
  simp only [behind]
  rfl

theorem consPlain_ofPlain (c : Char) (t g : Text) (ps : List Piece) :
    consPlain (plain [c]) (ofPlain t ++ interpolation g :: ps) =
      ofPlain (c :: t) ++ interpolation g :: ps := by
  cases t <;> rfl

theorem split_eq (t : Text) :
    split t = match firstMark? t with
      | none => ofPlain t
      | some (before, after) => match balanced? 1 after with
        | none => [plain t]
        | some (group, rest) =>
          ofPlain before ++ interpolation ('#' :: '\x7b' :: group) :: split rest := by
  fun_induction firstMark? t with
  | case1 => rfl
  | case2 t =>
      rw [split_mark]
      rfl
  | case3 c t other ih =>
      rw [split_cons other, ih]
      cases firstMark? t with
      | none => cases t <;> rfl
      | some s =>
          obtain ⟨before, after⟩ := s
          simp only [Option.map_some]
          cases balanced? 1 after with
          | none => rfl
          | some found => exact consPlain_ofPlain c before _ _

end Piece

/-! ## The last mark -/

theorem afterLastMark?_cons {c : Char} {t after : Text} (found : afterLastMark? t = some after) :
    afterLastMark? (c :: t) = some after := by
  by_cases first : c = '#' ∧ ∃ rest, t = '\x7b' :: rest
  · obtain ⟨rfl, rest, rfl⟩ := first
    rw [afterLastMark?.eq_3 _ _ fun _ hash => by cases hash] at found
    rw [afterLastMark?, found]
    rfl
  · rwa [afterLastMark?.eq_3 _ _ fun rest hash brace => first ⟨hash, rest, brace⟩]

theorem afterLastMark?_append {t after : Text} (found : afterLastMark? t = some after) (before : Text) :
    afterLastMark? (before ++ t) = some after := by
  induction before with
  | nil => exact found
  | cons c before ih => exact afterLastMark?_cons ih

theorem afterLastMark?_mark (before after : Text) :
    afterLastMark? (before ++ '#' :: '\x7b' :: after) = some ((afterLastMark? after).getD after) := by
  refine afterLastMark?_append ?_ before
  rw [afterLastMark?]
  cases afterLastMark? after <;> rfl

theorem afterLastMark?_eq_some {t after : Text} (found : afterLastMark? t = some after) :
    ∃ before, t = before ++ '#' :: '\x7b' :: after := by
  fun_induction afterLastMark? t with
  | case1 => cases found
  | case2 t ih =>
      cases below : afterLastMark? t with
      | none =>
          rw [below] at found
          cases found
          exact ⟨[], rfl⟩
      | some last =>
          rw [below] at found
          cases found
          obtain ⟨before, same⟩ := ih below
          exact ⟨'#' :: '\x7b' :: before, congrArg (fun t => '#' :: '\x7b' :: t) same⟩
  | case3 c t _ ih =>
      obtain ⟨before, same⟩ := ih found
      exact ⟨c :: before, congrArg (c :: ·) same⟩

theorem afterLastMark?_eq_none {t : Text} :
    afterLastMark? t = none ↔ ¬['#', '\x7b'] <:+: t := by
  constructor
  · rintro missing ⟨before, after, rfl⟩
    simp [afterLastMark?_mark] at missing
  · intro unmarked
    cases found : afterLastMark? t with
    | none => rfl
    | some after =>
        obtain ⟨before, rfl⟩ := afterLastMark?_eq_some found
        exact absurd ⟨before, after, by simp⟩ unmarked

end SuiteAudit
