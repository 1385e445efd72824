import SuiteAudit.Proofs.Guarded.Basic
import SuiteAudit.Proofs.StepFile.Interpolation

/-!
# Guarded brace scanners

Interpolations, the ends of literals and the parameters of quoted expressions, found by counting
braces and cutting texts at byte offsets. The counters never fall below zero and every cut is at the
edge of a character, whatever the text.
-/

namespace SuiteAudit

namespace Guarded

/-- The byte of the brace that closes the group which is `depth` braces deep, in a text that starts at
byte `offset`. A brace that closes no group gives `unopened`. -/
def close (unopened : Except Fault (Option Nat)) (depth offset : Nat) :
    Text → Except Fault (Option Nat)
  | [] => .ok none
  | c :: t =>
    if c = '\x7b' then close unopened (depth + 1) (offset + c.utf8Size) t
    else if c = '\x7d' then
      match sub depth 1 with
      | .error _ => unopened
      | .ok depth =>
        if depth = 0 then .ok (some offset) else close unopened depth (offset + c.utf8Size) t
    else close unopened depth (offset + c.utf8Size) t

def mark : Text := ['#', '\x7b']

/-- The stretches of a text, found with at most `fuel` marks. -/
def pieces (unopened : Except Fault (Option Nat)) : (fuel : Nat) → Text → Except Fault (List Piece)
  | 0, _ => .error .endless
  | fuel + 1, rest =>
    match (places mark 0 rest).head? with
    | none => .ok (Piece.ofPlain rest)
    | some start => do
      let opened ← part rest (start + 1) (size rest)
      match ← close unopened 0 0 opened with
      | none => return Piece.ofPlain rest
      | some offset =>
        let stop := start + 1 + offset + 1
        let before ← part rest 0 start
        let segment ← part rest start stop
        let after ← part rest stop (size rest)
        let later ← pieces unopened fuel after
        return Piece.ofPlain before ++ .interpolation segment :: later

def closesLiteral (line : Text) : Except Fault Bool := do
  let body := dropClosingParen line
  if body.getLast? = some '\x7d' then
    match (places mark 0 body).getLast? with
    | none => return true
    | some start =>
      let opened ← part body (start + 1) (size body)
      match ← close (.error .underflow) 0 0 opened with
      | none => return true
      | some offset =>
        let last ← sub (size body) 1
        return start + 1 + offset != last
  else return false

/-- The parts of a quoted expression, found with at most `fuel` parameters. -/
def parts : (fuel : Nat) → Text → Except Fault (List Pattern.Part)
  | 0, _ => .error .endless
  | fuel + 1, rest =>
    match (places ['\x7b'] 0 rest).head? with
    | none => .ok (rest.map .char)
    | some opening => do
      let before ← part rest 0 opening
      let opened ← part rest opening (size rest)
      match (places ['\x7d'] 0 opened).head? with
      | none => return before.map .char ++ opened.map .char
      | some closing =>
        let name ← part rest (opening + 1) (opening + closing)
        let after ← part rest (opening + closing + 1) (size rest)
        let later ← parts fuel after
        return before.map .char ++ .parameter name :: later

@[simp]
theorem utf8Size_hash : '#'.utf8Size = 1 := rfl

@[simp]
theorem utf8Size_opening : '\x7b'.utf8Size = 1 := rfl

@[simp]
theorem utf8Size_closing : '\x7d'.utf8Size = 1 := rfl

theorem close_eq (unopened : Except Fault (Option Nat)) {depth : Nat} (deep : 1 ≤ depth)
    (offset : Nat) (t : Text) :
    close unopened depth offset t =
      .ok ((Piece.balanced? depth t).map fun s => offset + (size s.1 - 1)) := by
  induction t generalizing depth offset with
  | nil => rfl
  | cons c t ih =>
      have longer {depth : Nat} (deep : 1 ≤ depth) :
          close unopened depth (offset + c.utf8Size) t =
            .ok (((Piece.balanced? depth t).map fun s => (c :: s.1, s.2)).map
              fun s => offset + (size s.1 - 1)) := by
        rw [ih deep, Option.map_map]
        cases balance : Piece.balanced? depth t with
        | none => rfl
        | some s =>
            obtain ⟨-, inner, closed⟩ := Piece.balanced?_eq_some balance
            have positive : 1 ≤ size s.1 := by simp [closed]
            simp only [Option.map_some, Function.comp, size_cons, Except.ok.injEq,
              Option.some.injEq]
            omega
      simp only [close, Piece.balanced?]
      split
      case isTrue => exact longer (Nat.le_succ_of_le deep)
      case isFalse =>
        split
        case isTrue brace =>
          subst brace
          rw [sub_of_le deep]
          -- Only the brace at depth one ends the search, so the counter stays positive below it.
          by_cases last : depth = 1
          · subst last
            rfl
          · have nested : ¬depth ≤ 1 := by omega
            have inside : depth - 1 ≠ 0 := by omega
            simp only [if_neg nested, if_neg inside]
            exact longer (by omega)
        case isFalse => exact longer deep

theorem close_mark (unopened : Except Fault (Option Nat)) (after : Text) :
    close unopened 0 0 ('\x7b' :: after) =
      .ok ((Piece.balanced? 1 after).map fun s => 1 + (size s.1 - 1)) :=
  close_eq unopened (Nat.le_refl 1) 1 after

theorem isPrefixOf_mark {c : Char} {t : Text}
    (other : ∀ rest, c = '#' → t = '\x7b' :: rest → False) : mark.isPrefixOf (c :: t) = false := by
  cases t with
  | nil => simp [mark, List.isPrefixOf]
  | cons d t =>
      by_cases both : c = '#' ∧ d = '\x7b'
      · exact (other t both.1 (congrArg (· :: t) both.2)).elim
      · simp only [mark, List.isPrefixOf, Bool.and_true, Bool.and_eq_false_iff, beq_eq_false_iff_ne]
        rcases not_and_or.mp both with differ | differ
        · exact .inl (Ne.symm differ)
        · exact .inr (Ne.symm differ)

theorem places_mark_head? (offset : Nat) (t : Text) :
    (places mark offset t).head? = (Piece.firstMark? t).map fun s => offset + size s.1 := by
  fun_induction Piece.firstMark? t generalizing offset with
  | case1 => rfl
  | case2 t => rfl
  | case3 c t other ih =>
      simp only [places, isPrefixOf_mark other, Bool.false_eq_true, if_false, ih, Option.map_map]
      simp only [Function.comp_def, size_cons, Nat.add_assoc]

theorem places_mark_getLast? (offset : Nat) (t : Text) :
    match afterLastMark? t with
    | none => places mark offset t = []
    | some after => ∃ before, t = before ++ '#' :: '\x7b' :: after ∧
        (places mark offset t).getLast? = some (offset + size before) := by
  fun_induction afterLastMark? t generalizing offset with
  | case1 => rfl
  | case2 t ih =>
      have here : mark.isPrefixOf ('#' :: '\x7b' :: t) = true := rfl
      have brace : mark.isPrefixOf ('\x7b' :: t) = false :=
        isPrefixOf_mark fun _ hash => by cases hash
      have both : places mark offset ('#' :: '\x7b' :: t) =
          offset :: places mark (offset + 1 + 1) t := by
        simp [places, here, brace]
      have below := ih (offset + 1 + 1)
      cases found : afterLastMark? t with
      | none =>
          rw [found] at below
          refine ⟨[], rfl, ?_⟩
          rw [both, below]
          rfl
      | some after =>
          rw [found] at below
          obtain ⟨before, split, last⟩ := below
          refine ⟨'#' :: '\x7b' :: before, congrArg (fun t => '#' :: '\x7b' :: t) split, ?_⟩
          rw [both, List.getLast?_cons, last]
          simp only [Option.getD_some, size_cons, utf8Size_hash, utf8Size_opening, Nat.add_assoc]
  | case3 c t other ih =>
      have below := ih (offset + c.utf8Size)
      simp only [places, isPrefixOf_mark other, Bool.false_eq_true, if_false]
      cases found : afterLastMark? t with
      | none =>
          rw [found] at below
          exact below
      | some after =>
          rw [found] at below
          obtain ⟨before, split, last⟩ := below
          refine ⟨c :: before, congrArg (c :: ·) split, ?_⟩
          rw [last, size_cons, Nat.add_assoc]

theorem pieces_eq (unopened : Except Fault (Option Nat)) {fuel : Nat} {t : Text}
    (enough : t.length < fuel) : pieces unopened fuel t = .ok (Piece.split t) := by
  induction fuel generalizing t with
  | zero => exact absurd enough (Nat.not_lt_zero _)
  | succ fuel ih =>
      rw [pieces, places_mark_head?, Piece.split_eq]
      cases first : Piece.firstMark? t with
      | none => rfl
      | some s =>
          obtain ⟨before, after⟩ := s
          have split := Piece.firstMark?_eq_some first
          have opened : part t (0 + size before + 1) (size t) = .ok ('\x7b' :: after) :=
            part_of_eq (before ++ ['#']) _ [] (by simp [split]) (by simp) (by simp [split]; omega)
          simp only [Option.map_some, opened, ok_bind, close_mark]
          cases balance : Piece.balanced? 1 after with
          | none =>
              have filled : t ≠ [] := by simp [split]
              simp [Piece.ofPlain, filled]
              rfl
          | some s =>
              obtain ⟨group, rest⟩ := s
              obtain ⟨rfl, inner, closed⟩ := Piece.balanced?_eq_some balance
              have positive : 1 ≤ size group := by simp [closed]
              have plain : part t 0 (0 + size before) = .ok before :=
                part_of_eq [] _ ('#' :: '\x7b' :: (group ++ rest)) (by simp [split]) (by simp)
                  (by simp)
              have segment : part t (0 + size before) (0 + size before + 1 + (1 + (size group - 1)) + 1) =
                  .ok ('#' :: '\x7b' :: group) :=
                part_of_eq before _ rest (by simp [split]) (by simp) (by simp; omega)
              have later : part t (0 + size before + 1 + (1 + (size group - 1)) + 1) (size t) =
                  .ok rest :=
                part_of_eq (before ++ '#' :: '\x7b' :: group) _ [] (by simp [split])
                  (by simp; omega) (by simp [split]; omega)
              have shorter : rest.length < fuel := by
                simp only [split, List.length_append, List.length_cons] at enough
                omega
              simp only [Option.map_some, plain, segment, later, ok_bind, ih shorter]
              rfl

theorem closesLiteral_eq (line : Text) :
    closesLiteral line = .ok (SuiteAudit.closesLiteral line) := by
  simp only [closesLiteral, SuiteAudit.closesLiteral]
  generalize dropClosingParen line = body
  by_cases brace : body.getLast? = some '\x7d'
  case neg => simp [brace, pure, Except.pure]
  simp only [brace, if_true, decide_true, Bool.true_and]
  have last := places_mark_getLast? 0 body
  cases found : afterLastMark? body with
  | none =>
      rw [found] at last
      simp [last, pure, Except.pure]
  | some after =>
      rw [found] at last
      obtain ⟨before, split, last⟩ := last
      have opened : part body (0 + size before + 1) (size body) = .ok ('\x7b' :: after) :=
        part_of_eq (before ++ ['#']) _ [] (by simp [split]) (by simp) (by simp [split]; omega)
      simp only [last, opened, ok_bind, close_mark]
      cases balance : Piece.balanced? 1 after with
      | none => rfl
      | some s =>
          obtain ⟨group, rest⟩ := s
          obtain ⟨rfl, inner, closed⟩ := Piece.balanced?_eq_some balance
          have positive : 1 ≤ size group := by simp [closed]
          have total : size body = size before + 2 + size group + size rest := by
            simp [split]
            omega
          have ends : (0 + size before + 1 + (1 + (size group - 1)) != size body - 1) =
              !rest.isEmpty := by
            cases rest with
            | nil =>
                rw [total]
                simp
                omega
            | cons c rest =>
                have := c.utf8Size_pos
                rw [total, size_cons]
                simp
                omega
          simp only [Option.map_some, sub_of_le (show 1 ≤ size body by omega), ok_bind, ends]
          rfl

/-! ## Quoted expressions -/

theorem places_char_head? {c : Char} {before : Text} (fresh : c ∉ before) (offset : Nat)
    (after : Text) : (places [c] offset (before ++ c :: after)).head? = some (offset + size before) := by
  induction before generalizing offset with
  | nil => simp [places]
  | cons d before ih =>
      have differ : c ≠ d := fun same => fresh (same ▸ List.mem_cons_self)
      have rest : c ∉ before := fun mem => fresh (List.mem_cons_of_mem d mem)
      simp [places, differ, ih rest, Nat.add_assoc]

theorem places_char_of_not_mem {c : Char} {t : Text} (absent : c ∉ t) (offset : Nat) :
    places [c] offset t = [] := by
  induction t generalizing offset with
  | nil => rfl
  | cons d t ih =>
      have differ : c ≠ d := fun same => absent (same ▸ List.mem_cons_self)
      have rest : c ∉ t := fun mem => absent (List.mem_cons_of_mem d mem)
      simp [places, differ, ih rest]

end Guarded

namespace Pattern

theorem parts_append {before : Text} (fresh : '\x7b' ∉ before) (t : Text) :
    parts none (before ++ t) = before.map .char ++ parts none t := by
  induction before with
  | nil => rfl
  | cons c before ih =>
      have other : c ≠ '\x7b' := fun same => fresh (same ▸ List.mem_cons_self)
      have rest : '\x7b' ∉ before := fun mem => fresh (List.mem_cons_of_mem c mem)
      rw [List.cons_append, parts, if_neg other, ih rest]
      rfl

theorem parts_name {inner : Text} (fresh : '\x7d' ∉ inner) (name t : Text) :
    parts (some name) (inner ++ '\x7d' :: t) =
      .parameter (name.reverse ++ inner) :: parts none t := by
  induction inner generalizing name with
  | nil => simp [parts]
  | cons c inner ih =>
      have other : c ≠ '\x7d' := fun same => fresh (same ▸ List.mem_cons_self)
      have rest : '\x7d' ∉ inner := fun mem => fresh (List.mem_cons_of_mem c mem)
      rw [List.cons_append, parts, if_neg other, ih rest, List.reverse_cons, List.append_assoc]
      rfl

theorem parts_unclosed {t : Text} (absent : '\x7d' ∉ t) (name : Text) :
    parts (some name) t = ('\x7b' :: (name.reverse ++ t)).map .char := by
  induction t generalizing name with
  | nil => simp [parts]
  | cons c t ih =>
      have other : c ≠ '\x7d' := fun same => absent (same ▸ List.mem_cons_self)
      have rest : '\x7d' ∉ t := fun mem => absent (List.mem_cons_of_mem c mem)
      rw [parts, if_neg other, ih rest, List.reverse_cons, List.append_assoc]
      rfl

end Pattern

namespace Guarded

theorem parts_eq {fuel : Nat} {t : Text} (enough : t.length < fuel) :
    parts fuel t = .ok (Pattern.parts none t) := by
  induction fuel generalizing t with
  | zero => exact absurd enough (Nat.not_lt_zero _)
  | succ fuel ih =>
      by_cases opens : '\x7b' ∈ t
      case neg =>
        have plain := Pattern.parts_append opens []
        rw [List.append_nil] at plain
        simp [parts, places_char_of_not_mem opens, plain, Pattern.parts]
      obtain ⟨before, after, rfl, fresh⟩ := List.eq_append_cons_of_mem opens
      have plain : part (before ++ '\x7b' :: after) 0 (0 + size before) = .ok before :=
        part_of_eq [] _ ('\x7b' :: after) (by simp) (by simp) (by simp)
      have opened : part (before ++ '\x7b' :: after) (0 + size before)
          (size (before ++ '\x7b' :: after)) = .ok ('\x7b' :: after) :=
        part_of_eq before _ [] (by simp) (by simp) (by simp)
      have model : Pattern.parts none (before ++ '\x7b' :: after) =
          before.map .char ++ Pattern.parts (some []) after := by
        rw [Pattern.parts_append fresh, Pattern.parts, if_pos rfl]
      rw [parts, places_char_head? fresh, model]
      simp only [plain, opened, ok_bind]
      by_cases closes : '\x7d' ∈ after
      case neg =>
        have open_ : '\x7d' ∉ '\x7b' :: after := by simpa using closes
        rw [places_char_of_not_mem open_, Pattern.parts_unclosed closes]
        rfl
      obtain ⟨name, rest, rfl, fresh'⟩ := List.eq_append_cons_of_mem closes
      have open_ : '\x7d' ∉ '\x7b' :: name := by simpa using fresh'
      have closing := places_char_head? open_ 0 rest
      rw [List.cons_append] at closing
      have inner : part (before ++ '\x7b' :: (name ++ '\x7d' :: rest)) (0 + size before + 1)
          (0 + size before + (0 + size ('\x7b' :: name))) = .ok name :=
        part_of_eq (before ++ ['\x7b']) _ ('\x7d' :: rest) (by simp) (by simp)
          (by simp; omega)
      have later : part (before ++ '\x7b' :: (name ++ '\x7d' :: rest))
          (0 + size before + (0 + size ('\x7b' :: name)) + 1)
          (size (before ++ '\x7b' :: (name ++ '\x7d' :: rest))) = .ok rest :=
        part_of_eq (before ++ '\x7b' :: name ++ ['\x7d']) _ [] (by simp)
          (by simp; omega) (by simp; omega)
      have shorter : rest.length < fuel := by
        simp only [List.length_append, List.length_cons] at enough
        omega
      rw [closing, Pattern.parts_name fresh']
      simp only [inner, later, ok_bind, ih shorter]
      rfl

end Guarded

end SuiteAudit
