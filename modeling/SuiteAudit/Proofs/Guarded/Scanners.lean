import SuiteAudit.Proofs.Guarded.Braces
import SuiteAudit.Proofs.StepFile.Cuts

/-!
# Guarded masking

Interpolations are found twice: for the stretches of a text (`pieces`) and for its masks (`maskFrom`),
each time by a loop that counts braces and cuts at byte offsets. Both loops make the cut of the text,
whatever a counter does that would fall below zero, so none of them does.
-/

namespace SuiteAudit

namespace Guarded

/-- The masked text and its segments, found with at most `fuel` marks, where `done` is what is masked
already. -/
def maskFrom (unopened : Except Fault (Option Nat)) :
    (fuel : Nat) → (done : Masked) → Text → Except Fault Masked
  | 0, _, _ => .error .endless
  | fuel + 1, done, rest =>
    match (places mark 0 rest).head? with
    | none => .ok { done with text := done.text ++ rest }
    | some start => do
      let opened ← part rest (start + 1) (size rest)
      match ← close unopened 0 0 opened with
      | none => return { done with text := done.text ++ rest }
      | some offset =>
        let stop := start + 1 + (offset + 1)
        let before ← part rest 0 start
        let segment ← part rest start stop
        let after ← part rest stop (size rest)
        maskFrom unopened fuel
          ⟨done.text ++ before ++ Masked.token done.segments.length, done.segments ++ [segment]⟩ after

theorem places_first {before : Text} (first : ¬['#', '\x7b'] <:+: before) (after : Text) :
    (places mark 0 (before ++ '#' :: '\x7b' :: after)).head? = some (size before) := by
  rw [places_mark_head?, Piece.firstMark?_append first, Option.map_some, Nat.zero_add]

theorem part_opened (before after : Text) :
    part (before ++ '#' :: after) (size before + 1) (size (before ++ '#' :: after)) = .ok after :=
  part_of_eq (before ++ ['#']) _ [] (by simp) (by simp) (by simp; omega)

theorem close_group (unopened : Except Fault (Option Nat)) {group : Text} (isGroup : IsGroup group)
    (rest : Text) : close unopened 0 0 (group ++ rest) = .ok (some (size group - 1)) := by
  obtain ⟨inner, rfl, closes⟩ := isGroup.eq_cons
  have balance : Piece.balanced? 1 (inner ++ rest) = some (inner, rest) :=
    (Piece.balanced?_eq_some_iff Nat.one_pos).mpr ⟨rfl, closes⟩
  obtain ⟨-, init, closed⟩ := Piece.balanced?_eq_some balance
  have positive : 1 ≤ size inner := by simp [closed]
  rw [List.cons_append, close_mark, balance]
  simp
  omega

/-- One turn of a loop that ends in a group cuts the text before its mark, at the mark and behind it. -/
theorem part_turn (before group rest : Text) :
    let t := before ++ '#' :: (group ++ rest)
    part t 0 (size before) = .ok before ∧
      part t (size before) (size before + 1 + size group) = .ok ('#' :: group) ∧
      part t (size before + 1 + size group) (size t) = .ok rest := by
  refine ⟨?_, ?_, ?_⟩
  · exact part_of_eq [] _ ('#' :: (group ++ rest)) (by simp) (by simp) (by simp)
  · exact part_of_eq before _ rest (by simp) rfl (by simp; omega)
  · exact part_of_eq (before ++ '#' :: group) _ [] (by simp) (by simp; omega) (by simp; omega)

theorem maskFrom_last (unopened : Except Fault (Option Nat)) {t : Text} (unclosed : Unclosed t)
    (fuel : Nat) (done : Masked) :
    maskFrom unopened (fuel + 1) done t = .ok { done with text := done.text ++ t } := by
  rw [maskFrom, places_mark_head?]
  cases found : Piece.firstMark? t with
  | none => rfl
  | some s =>
      obtain ⟨before, after⟩ := s
      have balance := unclosed.balanced?_eq_none found
      obtain rfl := Piece.firstMark?_eq_some found
      simp only [Option.map_some, Nat.zero_add, part_opened, ok_bind, close_mark, balance]
      rfl

theorem maskFrom_cons (unopened : Except Fault (Option Nat)) {before group : Text}
    (first : ¬['#', '\x7b'] <:+: before) (isGroup : IsGroup group) (rest : Text) (fuel : Nat)
    (done : Masked) :
    maskFrom unopened (fuel + 1) done (before ++ '#' :: (group ++ rest)) =
      maskFrom unopened fuel
        ⟨done.text ++ before ++ Masked.token done.segments.length, done.segments ++ ['#' :: group]⟩
        rest := by
  obtain ⟨plain, segment, later⟩ := part_turn before group rest
  have start : (places mark 0 (before ++ '#' :: (group ++ rest))).head? = some (size before) := by
    obtain ⟨inner, rfl, -⟩ := isGroup.eq_cons
    exact places_first first (inner ++ rest)
  have stop : size before + 1 + (size group - 1 + 1) = size before + 1 + size group := by
    obtain ⟨inner, rfl, -⟩ := isGroup.eq_cons
    simp
    omega
  rw [maskFrom, start]
  simp only [part_opened, close_group unopened isGroup, ok_bind, stop, plain, segment, later]

/-- The loop that masks a text writes the cut of the text behind what is masked already. -/
theorem maskFrom_eq (unopened : Except Fault (Option Nat)) {t : Text} {cut : Cut}
    (taken : Cut.Of t cut) {fuel : Nat} (enough : t.length < fuel) (done : Masked) :
    maskFrom unopened fuel done t =
      .ok ⟨done.text ++ cut.fill Masked.token done.segments.length, done.segments ++ cut.segments⟩ := by
  induction taken generalizing fuel done with
  | last unclosed =>
      cases fuel with
      | zero => exact absurd enough (Nat.not_lt_zero _)
      | succ fuel => simp [maskFrom_last unopened unclosed, Cut.fill, Cut.segments]
  | @cons before group rest cut first isGroup later ih =>
      cases fuel with
      | zero => exact absurd enough (Nat.not_lt_zero _)
      | succ fuel =>
          have shorter : rest.length < fuel := by
            simp only [List.length_append, List.length_cons] at enough
            omega
          rw [maskFrom_cons unopened first isGroup, ih shorter]
          simp [Cut.fill, Cut.segments]

/-- Every text has one cut, whose stretches and interpolations make up the text, each interpolation a
`#` and a group. The stretches of the text and its masks are those of the cut, and so are the results of
both loops, whichever answer a brace that closes nothing would give. -/
theorem scanners_agree (t : Text) :
    ∃ cut : Cut, (∀ other, Cut.Of t other ↔ other = cut) ∧ cut.text = t ∧
      (∀ s ∈ cut.segments, ∃ group, s = '#' :: group ∧ IsGroup group) ∧
      Piece.split t = cut.pieces ∧
      Masked.ofLine t = ⟨cut.fill Masked.token 0, cut.segments⟩ ∧
      ∀ unopened, pieces unopened (t.length + 1) t = .ok cut.pieces ∧
        maskFrom unopened (t.length + 1) ⟨[], []⟩ t = .ok ⟨cut.fill Masked.token 0, cut.segments⟩ := by
  obtain ⟨cut, taken⟩ := Cut.exists_of t
  refine ⟨cut, fun other => ?_, taken.text_eq, taken.isGroup, taken.split_eq, taken.ofLine_eq,
    fun unopened => ⟨?_, ?_⟩⟩
  · exact ⟨fun taken' => taken'.unique taken, fun same => same ▸ taken⟩
  · rw [pieces_eq unopened (Nat.lt_succ_self _), taken.split_eq]
  · rw [maskFrom_eq unopened taken (Nat.lt_succ_self _)]
    rfl

end Guarded

end SuiteAudit
