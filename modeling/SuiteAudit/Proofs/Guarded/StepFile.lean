import SuiteAudit.Proofs.Guarded.Braces
import SuiteAudit.Proofs.StepFile.CallLines

/-!
# Guarded reading of step files

Blocks, bodies and nested calls of a step file, read by positions of its lines. None of the guarded
operations has a fault on any text, and what they give is what the readers give.
-/

namespace SuiteAudit

namespace Guarded

variable {α : Type}

/-! ## Nested calls -/

/-- A line with its interpolations masked. A brace that closes no group only ends the search. -/
def masked (line : Text) : Except Fault Masked := do
  let found ← pieces (.ok none) (line.length + 1) line
  return ⟨Masked.textOf 0 found, (found.filter Piece.isInterpolation).map Piece.text⟩

def openingLine (line : Text) (m : Masked) (singular : Bool) (rest : Text) : Except Fault CallLine :=
  if rest.isEmpty then .ok (.opening none)
  else do
    if ← closesLiteral line then
      let inner := CallLine.withoutClosing rest
      return CallLine.ofText? m .call
        ((CallLine.stepText? inner).or (if singular && !inner.isEmpty then some inner else none))
    else return .opening ((CallLine.stepText? rest).bind m.finish)

def callLine (raw : Text) : Except Fault CallLine :=
  let line := Text.trim raw
  if line.isEmpty || Line.isComment line then .ok .other
  else do
    let m ← masked line
    match CallLine.string? m.text with
    | some (_, content) => return CallLine.ofText? m .call (some content)
    | none => match CallLine.literalOpening? m.text with
      | some (singular, rest) => openingLine line m singular rest
      | none => match CallLine.lastStep? m.text with
        | some text => return .closing (m.finish text)
        | none =>
          if CallLine.isClosing m.text then return .closing none
          else return CallLine.ofText? m .inner (CallLine.stepText? m.text)

def callsFrom (inLiteral : Bool) (n : Nat) : List Text → Except Fault (List (Nat × Text))
  | [] => .ok []
  | line :: body => do
    let (inLiteral, found) := CallLine.step inLiteral (← callLine line)
    let later ← callsFrom inLiteral (n + 1) body
    return (found.map fun t => (n, t)).toList ++ later

theorem masked_eq (line : Text) : masked line = .ok (Masked.ofLine line) := by
  rw [masked, pieces_eq _ (Nat.lt_succ_self _), ok_bind]
  rfl

theorem openingLine_eq (line : Text) (m : Masked) (singular : Bool) (rest : Text) :
    openingLine line m singular rest = .ok (CallLine.ofOpening line m singular rest) := by
  simp only [openingLine, CallLine.ofOpening, closesLiteral_eq, ok_bind]
  split
  · rfl
  · split <;> rfl

theorem callLine_eq (raw : Text) : callLine raw = .ok (CallLine.ofLine raw) := by
  simp only [callLine, CallLine.ofLine, masked_eq, openingLine_eq, ok_bind]
  generalize Masked.ofLine raw.trim = m
  split
  · rfl
  · cases CallLine.string? m.text with
    | some s => rfl
    | none =>
        cases CallLine.literalOpening? m.text with
        | some s => rfl
        | none =>
            cases CallLine.lastStep? m.text with
            | some text => rfl
            | none => cases CallLine.isClosing m.text <;> rfl

theorem callsFrom_eq (inLiteral : Bool) (n : Nat) (body : List Text) :
    callsFrom inLiteral n body = .ok (CallLine.callsFrom inLiteral n body) := by
  induction body generalizing inLiteral n with
  | nil => rfl
  | cons line body ih =>
      simp only [callsFrom, callLine_eq, ok_bind, ih]
      rfl

/-! ## Bodies -/

/-- The last position, counted from `i`, of an element that passes the test. -/
def lastPosition? (test : α → Bool) (i : Nat) : List α → Option Nat
  | [] => none
  | x :: xs => (lastPosition? test (i + 1) xs).or (if test x then some i else none)

def bodyOf (opener : Opener) (lines : List Text) : Except Fault (List Text) :=
  let lines := lines.map Text.trim
  match lastPosition? (Block.isTerminator opener) 0 lines with
  | some stop => slice lines 0 stop
  | none =>
    slice lines 0 (((lastPosition? (fun line => !line.isEmpty) 0 lines).map (· + 1)).getD 0)

def bodyBelow (start : BlockStart) (below : List Text) : Except Fault (List Text) :=
  if start.closed then .ok (start.code.map Text.trim).toList else bodyOf start.opener below

theorem lastPosition?_cases (test : α → Bool) (i : Nat) (xs : List α) :
    match lastPosition? test i xs with
    | none => ∀ x ∈ xs, test x = false
    | some p => ∃ before x after, xs = before ++ x :: after ∧ p = i + before.length ∧
        test x = true ∧ ∀ y ∈ after, test y = false := by
  induction xs generalizing i with
  | nil => exact fun x mem => absurd mem List.not_mem_nil
  | cons x xs ih =>
      have below := ih (i + 1)
      cases found : lastPosition? test (i + 1) xs with
      | some p =>
          rw [found] at below
          obtain ⟨before, y, after, rfl, place, passes, fail⟩ := below
          simp only [lastPosition?, found, Option.some_or]
          refine ⟨x :: before, y, after, rfl, ?_, passes, fail⟩
          rw [place, List.length_cons]
          omega
      | none =>
          rw [found] at below
          simp only [lastPosition?, found, Option.none_or]
          cases here : test x with
          | true => exact ⟨[], x, xs, rfl, rfl, here, below⟩
          | false =>
              intro y mem
              rcases List.mem_cons.mp mem with rfl | later
              · exact here
              · exact below y later

private theorem dropWhile_of_fail (test : α → Bool) {after : List α}
    (fail : ∀ y ∈ after, test y = false) (rest : List α) :
    (after.reverse ++ rest).dropWhile (fun y => !test y) = rest.dropWhile fun y => !test y := by
  refine List.dropWhile_append_of_pos fun y mem => ?_
  rw [fail y (List.mem_reverse.mp mem)]
  rfl

private theorem dropWhile_reverse (test : α → Bool) {x : α} {after : List α}
    (passes : test x = true) (fail : ∀ y ∈ after, test y = false) (before : List α) :
    (before ++ x :: after).reverse.dropWhile (fun y => !test y) = x :: before.reverse := by
  rw [List.reverse_append, List.reverse_cons, List.append_assoc, dropWhile_of_fail test fail,
    List.singleton_append, List.dropWhile_cons_of_neg (by simp [passes])]

private theorem dropWhile_reverse_of_fail (test : α → Bool) {xs : List α}
    (fail : ∀ x ∈ xs, test x = false) : xs.reverse.dropWhile (fun y => !test y) = [] := by
  rw [← List.append_nil xs.reverse, dropWhile_of_fail test fail]
  rfl

theorem bodyOf_eq (opener : Opener) (lines : List Text) :
    bodyOf opener lines = .ok (Block.bodyOf opener lines) := by
  simp only [bodyOf, Block.bodyOf, Block.beforeLast?]
  generalize lines.map Text.trim = lines
  have terminated := lastPosition?_cases (Block.isTerminator opener) 0 lines
  cases found : lastPosition? (Block.isTerminator opener) 0 lines with
  | some stop =>
      rw [found] at terminated
      obtain ⟨before, line, after, rfl, rfl, passes, fail⟩ := terminated
      rw [dropWhile_reverse _ passes fail before]
      simp only [Nat.zero_add]
      rw [slice_take (by simp), List.take_left, List.reverse_reverse]
  | none =>
      rw [found] at terminated
      rw [dropWhile_reverse_of_fail _ terminated]
      have filled := lastPosition?_cases (fun line : Text => !line.isEmpty) 0 lines
      have blank : (fun line : Text => !!line.isEmpty) = List.isEmpty := by
        funext line
        exact Bool.not_not _
      cases last : lastPosition? (fun line : Text => !line.isEmpty) 0 lines with
      | some p =>
          rw [last] at filled
          obtain ⟨before, line, after, rfl, rfl, passes, fail⟩ := filled
          have kept := dropWhile_reverse (fun line : Text => !line.isEmpty) passes fail before
          rw [blank] at kept
          simp only [kept, Option.map_some, Option.getD_some, List.reverse_cons,
            List.reverse_reverse, Nat.zero_add]
          simpa using slice_append [] (before ++ [line]) after
      | none =>
          rw [last] at filled
          have kept := dropWhile_reverse_of_fail (fun line : Text => !line.isEmpty) filled
          rw [blank] at kept
          simp only [kept, Option.map_none, Option.getD_none, List.reverse_nil]
          rw [slice_take (Nat.zero_le _), List.take_zero]

theorem bodyBelow_eq (start : BlockStart) (below : List Text) :
    bodyBelow start below = .ok (Block.bodyBelow start below) := by
  simp only [bodyBelow, Block.bodyBelow, bodyOf_eq]
  split <;> rfl

/-! ## Blocks -/

/-- The positions, counted from `i`, of the lines that declare something. -/
def declarations (i : Nat) : List Text → List Nat
  | [] => []
  | line :: rest =>
    if (Declaration.read? line).isSome then i :: declarations (i + 1) rest
    else declarations (i + 1) rest

/-- The blocks whose declarations stand at the given positions. -/
def blocksAt (lines : List Text) : List Nat → Except Fault (List Block)
  | [] => .ok []
  | start :: later => do
    let line ← get lines start
    let below ← slice lines (start + 1) (later.head?.getD lines.length)
    let blocks ← blocksAt lines later
    match Declaration.read? line with
    | none => return blocks
    | some d => return ⟨d, start + 1, ← bodyBelow d.block below⟩ :: blocks

def blocks (t : Text) : Except Fault (List Block) :=
  blocksAt (Text.lines t) (declarations 0 (Text.lines t))

theorem declarations_head? (i : Nat) (lines : List Text) :
    (declarations i lines).head?.getD (i + lines.length) =
      i + (lines.takeWhile fun line => (Declaration.read? line).isNone).length := by
  induction lines generalizing i with
  | nil => rfl
  | cons line rest ih =>
      have below := ih (i + 1)
      cases declared : Declaration.read? line with
      | some d => simp [declarations, declared]
      | none =>
          simp only [declarations, declared, Option.isSome_none, Bool.false_eq_true, if_false,
            List.takeWhile_cons, Option.isNone_none, if_true, List.length_cons]
          have length : i + (rest.length + 1) = i + 1 + rest.length := by omega
          rw [length, below]
          omega

theorem blocksAt_eq (before rest : List Text) :
    blocksAt (before ++ rest) (declarations before.length rest) =
      .ok (Block.split (before.length + 1) rest) := by
  induction rest generalizing before with
  | nil => rfl
  | cons line rest ih =>
      have later := ih (before ++ [line])
      rw [List.append_assoc, List.singleton_append, List.length_append, List.length_singleton]
        at later
      cases declared : Declaration.read? line with
      | none => simp only [declarations, declared, Option.isSome_none, Bool.false_eq_true, if_false,
          later, Block.split]
      | some d =>
          let below := rest.takeWhile fun line => (Declaration.read? line).isNone
          have stop : (declarations (before.length + 1) rest).head?.getD
              (before ++ line :: rest).length = before.length + 1 + below.length := by
            rw [← declarations_head?, List.length_append, List.length_cons]
            congr 1
            omega
          have cut : slice (before ++ line :: rest) (before.length + 1)
              (before.length + 1 + below.length) = .ok below := by
            have parts := slice_append (before ++ [line]) below
              (rest.dropWhile fun line => (Declaration.read? line).isNone)
            rwa [List.append_assoc (before ++ [line]), List.takeWhile_append_dropWhile,
              List.append_assoc before, List.singleton_append, List.length_append,
              List.length_singleton] at parts
          simp only [declarations, declared, Option.isSome_some, if_true, blocksAt, get_append,
            stop, cut, later, ok_bind, bodyBelow_eq, Block.split]
          rfl

theorem blocks_eq (t : Text) : blocks t = .ok (Block.ofText t) := blocksAt_eq [] (Text.lines t)

/-! ## Definitions and hooks -/

def expression (e : Text) : Except Fault Pattern := do
  let patterns := (← parts (e.length + 1) e).map Pattern.Part.pattern
  return ⟨'^' :: patterns.flatMap Pattern.text ++ ['$'],
    Regex.whole (Regex.seqs (patterns.map Pattern.regex))⟩

def pattern : StepSource → Except Fault Pattern
  | .regex source flags => .ok (Pattern.ofRegex source flags)
  | s@(.quoted _ _) => expression s.text

def definition (file : SourcePath) (d : StepDeclaration) (b : Block) : Except Fault StepDefinition := do
  let pattern ← pattern d.source
  let anchor ← if b.isInline then sub b.line 1 else .ok b.line
  let calls ← callsFrom false 1 b.body
  return { card := { location := ⟨file, b.line⟩ }
           pattern
           source := d.source.text
           parameters := parameterNames (d.block.parameters.getD [])
           body := b.body
           nested := calls.map fun (n, t) => (⟨file, anchor + n⟩, t) }

def definitions (file : SourcePath) (t : Text) : Except Fault (List StepDefinition) := do
  let found := (← blocks t).filterMap fun b => match b.declaration with
    | .step d => some (d, b)
    | .hook _ => none
  found.mapM fun (d, b) => definition file d b

def hooks (file : SourcePath) (t : Text) : Except Fault (List Hook) := do
  return (← blocks t).filterMap fun b => match b.declaration with
    | .step _ => none
    | .hook d => some (Hook.ofBlock file d b)

theorem pattern_eq (s : StepSource) : pattern s = .ok s.pattern := by
  cases s with
  | regex source flags => rfl
  | quoted quote source =>
      rw [pattern, expression, parts_eq (Nat.lt_succ_self _), ok_bind]
      rfl

theorem definition_eq (file : SourcePath) (d : StepDeclaration) {b : Block} (positive : 1 ≤ b.line) :
    definition file d b = .ok (StepDefinition.ofBlock file d b) := by
  simp only [definition, pattern_eq, callsFrom_eq, ok_bind, StepDefinition.ofBlock]
  cases b.isInline with
  | true =>
      -- Lines are counted from one, so there is a line before that of the declaration.
      simp only [if_true, sub_of_le positive, ok_bind]
      rfl
  | false => rfl

theorem definitions_eq (file : SourcePath) (t : Text) :
    definitions file t = .ok (StepDefinition.ofText file t) := by
  rw [definitions, blocks_eq, ok_bind]
  have ok : ∀ e ∈ (Block.ofText t).filterMap (fun b => match b.declaration with
      | .step d => some (d, b)
      | .hook _ => none), definition file e.1 e.2 = .ok (StepDefinition.ofBlock file e.1 e.2) := by
    rintro ⟨d, b⟩ member
    obtain ⟨block, source, value⟩ := List.mem_filterMap.mp member
    have positive : 1 ≤ block.line := by
      have := Block.le_line_of_mem_split source
      omega
    split at value
    · cases value
      exact definition_eq file d positive
    · cases value
  rw [mapM_ok ok, StepDefinition.ofText, List.map_filterMap]
  congr 2
  funext b
  cases b.declaration <;> rfl

theorem hooks_eq (file : SourcePath) (t : Text) : hooks file t = .ok (Hook.ofText file t) := by
  rw [hooks, blocks_eq]
  rfl

end Guarded

end SuiteAudit
