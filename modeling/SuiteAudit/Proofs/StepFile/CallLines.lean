import SuiteAudit.StepFile.Hook

/-!
# The lines of a step file

The blocks of a step file stand one below the other, and the nested calls of a block lie on its own
lines: on the line of the declaration if the body is written there, else below it and above the next
declaration (`Block.split_pairwise`).
-/

namespace SuiteAudit

theorem CallLine.callsFrom_numbers (inLiteral : Bool) (n : Nat) (body : List Text) :
    ((callsFrom inLiteral n body).map Prod.fst).Sublist (List.range' n body.length) := by
  induction body generalizing inLiteral n with
  | nil => exact List.Sublist.slnil
  | cons line body ih =>
      simp only [callsFrom, List.map_append, List.length_cons, List.range'_succ]
      have rest := ih (step inLiteral (ofLine line)).1 (n + 1)
      cases (step inLiteral (ofLine line)).2 with
      | none => simpa using rest.cons n
      | some t => simpa using rest

theorem nestedCalls_numbers (body : List Text) :
    ((nestedCalls body).map Prod.fst).Sublist (List.range' 1 body.length) :=
  CallLine.callsFrom_numbers false 1 body

namespace Block

/-! ## Bodies -/

theorem beforeLast?_isPrefix {test : Text → Bool} {lines rest : List Text}
    (found : beforeLast? test lines = some rest) : rest <+: lines := by
  unfold beforeLast? at found
  split at found
  · cases found
  · rename_i last before kept
    obtain rfl := Option.some.inj found
    have suffix : before <:+ lines.reverse := by
      refine (List.suffix_cons last before).trans ?_
      rw [← kept]
      exact List.dropWhile_suffix _
    simpa using List.reverse_prefix.mpr suffix

theorem bodyOf_isPrefix (opener : Opener) (lines : List Text) :
    bodyOf opener lines <+: lines.map Text.trim := by
  simp only [bodyOf]
  split
  · rename_i body found
    exact beforeLast?_isPrefix found
  · have suffix := List.dropWhile_suffix (l := (lines.map Text.trim).reverse) List.isEmpty
    simpa using List.reverse_prefix.mpr suffix

theorem bodyOf_length (opener : Opener) (lines : List Text) :
    (bodyOf opener lines).length ≤ lines.length := by
  simpa using (bodyOf_isPrefix opener lines).length_le

theorem bodyBelow_length (start : BlockStart) (below : List Text) :
    (bodyBelow start below).length ≤ if start.closed then 1 else below.length := by
  unfold bodyBelow
  split
  · exact Option.length_toList_le
  · exact bodyOf_length _ _

/-! ## Positions -/

/-- The line that the lines of the body are counted from. -/
def anchor (b : Block) : Nat := if b.isInline then b.line - 1 else b.line

/-- The lines of the nested calls of a block. -/
def callLines (b : Block) : List Nat := (nestedCalls b.body).map fun e => b.anchor + e.1

theorem callLines_sublist (b : Block) :
    b.callLines.Sublist (List.range' (b.anchor + 1) b.body.length) := by
  have shifted := (nestedCalls_numbers b.body).map (b.anchor + ·)
  rwa [List.map_map, List.map_add_range'] at shifted

/-- A block is a declaration with the lines between it and the next one. -/
theorem exists_of_mem_split {n : Nat} {lines : List Text} {b : Block} (member : b ∈ split n lines) :
    ∃ before line d rest, lines = before ++ line :: rest ∧ Declaration.read? line = some d ∧
      b = ⟨d, n + before.length, bodyBelow d.block
        (rest.takeWhile fun line => (Declaration.read? line).isNone)⟩ := by
  fun_induction split n lines with
  | case1 => cases member
  | case2 n line rest d declared below ih =>
      rcases List.mem_cons.mp member with rfl | later
      · exact ⟨[], line, d, rest, rfl, declared, rfl⟩
      · obtain ⟨before, line', d', rest', rfl, declared', rfl⟩ := ih later
        exact ⟨line :: before, line', d', rest', rfl, declared', by simp; omega⟩
  | case3 n line rest none ih =>
      obtain ⟨before, line', d', rest', rfl, declared', rfl⟩ := ih member
      exact ⟨line :: before, line', d', rest', rfl, declared', by simp; omega⟩

theorem le_line_of_mem_split {n : Nat} {lines : List Text} {b : Block} (member : b ∈ split n lines) :
    n + (lines.takeWhile fun line => (Declaration.read? line).isNone).length ≤ b.line := by
  obtain ⟨before, line, d, rest, rfl, declared, rfl⟩ := exists_of_mem_split member
  rw [List.takeWhile_append]
  split
  · simp [declared]
  · exact Nat.add_le_add_left (List.takeWhile_sublist _).length_le n

theorem isInline_body_length {n : Nat} {lines : List Text} {b : Block} (member : b ∈ split n lines)
    (inline : b.isInline) : b.body.length ≤ 1 := by
  obtain ⟨before, line, d, rest, -, -, rfl⟩ := exists_of_mem_split member
  have bound := bodyBelow_length d.block
    (rest.takeWhile fun line => (Declaration.read? line).isNone)
  have closed : d.block.closed = true := inline
  rwa [closed, if_pos rfl] at bound

theorem callLines_bounds {b : Block} (positive : 1 ≤ b.line)
    (short : b.isInline → b.body.length ≤ 1) {l : Nat} (member : l ∈ b.callLines) :
    b.line ≤ l ∧ l ≤ b.line + (if b.isInline then 0 else b.body.length) := by
  have inRange := b.callLines_sublist.subset member
  rw [List.mem_range'_1, anchor] at inRange
  cases inline : b.isInline with
  | true =>
      have := short inline
      simp only [inline, if_true] at inRange ⊢
      omega
  | false =>
      simp only [inline, Bool.false_eq_true, if_false] at inRange ⊢
      omega

theorem split_pairwise {n : Nat} (positive : 1 ≤ n) (lines : List Text) :
    (split n lines).Pairwise fun b b' => b.line < b'.line ∧ ∀ l ∈ b.callLines, l < b'.line := by
  induction lines generalizing n with
  | nil => exact List.Pairwise.nil
  | cons line rest ih =>
      have tail := ih (n := n + 1) (by omega)
      unfold split
      cases declared : Declaration.read? line with
      | none => exact tail
      | some d =>
          refine List.pairwise_cons.mpr ⟨fun b' member => ?_, tail⟩
          have after := le_line_of_mem_split member
          refine ⟨by simp only; omega, fun l called => ?_⟩
          have bound := bodyBelow_length d.block
            (rest.takeWhile fun line => (Declaration.read? line).isNone)
          -- The body has no more lines than there are before the next declaration.
          have last := (callLines_bounds (by simpa using positive)
            (fun inline => by simpa [show d.block.closed = true from inline] using bound) called).2
          cases closed : d.block.closed with
          | true =>
              simp only [isInline, closed, if_true] at last
              omega
          | false =>
              simp only [isInline, closed, Bool.false_eq_true, if_false] at last bound
              omega

theorem ofText_pairwise (t : Text) :
    (ofText t).Pairwise fun b b' => b.line < b'.line ∧ ∀ l ∈ b.callLines, l < b'.line :=
  split_pairwise (by omega) _

theorem ofText_callLines {t : Text} {b : Block} (member : b ∈ ofText t) {l : Nat}
    (called : l ∈ b.callLines) : b.line ≤ l := by
  have positive := le_line_of_mem_split member
  exact (callLines_bounds (by omega) (isInline_body_length member) called).1

end Block

/-! ## Definitions and hooks -/

namespace StepDefinition

theorem ofBlock_nested (file : SourcePath) (d : StepDeclaration) (b : Block) :
    (ofBlock file d b).nested =
      (nestedCalls b.body).map fun e => (⟨file, b.anchor + e.1⟩, e.2) := by
  simp only [ofBlock, nestedAt, Block.anchor]
  cases b.isInline <;> rfl

theorem ofBlock_nested_lines (file : SourcePath) (d : StepDeclaration) (b : Block) :
    (ofBlock file d b).nested.map (fun e => e.1.line) = b.callLines := by
  rw [ofBlock_nested, List.map_map]
  rfl

theorem mem_ofText {file : SourcePath} {t : Text} {d : StepDefinition} (member : d ∈ ofText file t) :
    ∃ b ∈ Block.ofText t, ∃ declaration, b.declaration = .step declaration ∧
      d = ofBlock file declaration b := by
  obtain ⟨b, block, value⟩ := List.mem_filterMap.mp member
  split at value
  · rename_i declaration kind
    exact ⟨b, block, declaration, kind, (Option.some.inj value).symm⟩
  · cases value

theorem ofText_pairwise (file : SourcePath) (t : Text) :
    (ofText file t).Pairwise fun d d' => d.card.location.line < d'.card.location.line ∧
      ∀ e ∈ d.nested, ∀ e' ∈ d'.nested, e.1.line < e'.1.line := by
  unfold ofText
  rw [List.pairwise_filterMap]
  refine (List.Pairwise.and_mem.mp (Block.ofText_pairwise t)).imp ?_
  rintro b b' ⟨-, member, below⟩ d value d' value'
  split at value
  · split at value'
    · obtain rfl := Option.some.inj value
      obtain rfl := Option.some.inj value'
      refine ⟨below.1, fun e called e' called' => ?_⟩
      have line := below.2 e.1.line (by
        rw [← ofBlock_nested_lines file _ b]
        exact List.mem_map_of_mem called)
      have line' := Block.ofText_callLines member (l := e'.1.line) (by
        rw [← ofBlock_nested_lines file _ b']
        exact List.mem_map_of_mem called')
      omega
    · cases value'
  · cases value

theorem ofText_nested_pairwise {file : SourcePath} {t : Text} {d : StepDefinition}
    (member : d ∈ ofText file t) : d.nested.Pairwise fun e e' => e.1.line < e'.1.line := by
  obtain ⟨b, -, declaration, -, rfl⟩ := mem_ofText member
  have ascending := List.Pairwise.sublist b.callLines_sublist (List.pairwise_lt_range' 1)
  rwa [← ofBlock_nested_lines file declaration b, List.pairwise_map] at ascending

theorem ofText_nested_file {file : SourcePath} {t : Text} {d : StepDefinition}
    (member : d ∈ ofText file t) {e : Location × Text} (called : e ∈ d.nested) : e.1.file = file := by
  obtain ⟨b, -, declaration, -, rfl⟩ := mem_ofText member
  rw [ofBlock_nested] at called
  obtain ⟨_, -, rfl⟩ := List.mem_map.mp called
  rfl

theorem ofText_card {file : SourcePath} {t : Text} {d : StepDefinition}
    (member : d ∈ ofText file t) : ∃ line, d.card = { location := ⟨file, line⟩ } := by
  obtain ⟨b, -, declaration, -, rfl⟩ := mem_ofText member
  exact ⟨b.line, rfl⟩

end StepDefinition

end SuiteAudit
