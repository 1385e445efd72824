import SuiteAudit.Proofs.Feature.StepLines
import SuiteAudit.Proofs.StepFile.CallLines
import SuiteAudit.Proofs.StepFile.Declarations

/-!
# Where nested calls are written

A nested call is located on the line that carries its text: a line of the body, before the next
declaration, or the line of the declaration if the body is written there. The calls of a file are on
different lines, in the order of the file.
-/

namespace SuiteAudit

open Text

namespace CallLine

/-- The text that a line carries, called or not. -/
def text? : CallLine → Option Text
  | call t | inner t => some t
  | opening t | closing t => t
  | other => none

theorem text?_of_step {inLiteral : Bool} {line : CallLine} {t : Text}
    (called : (step inLiteral line).2 = some t) : line.text? = some t := by
  cases line with
  | call u => exact called
  | opening u => exact called
  | inner u => cases inLiteral <;> simp_all [step, text?]
  | closing u => cases inLiteral <;> simp_all [step, text?]
  | other => cases called

theorem mem_callsFrom {inLiteral : Bool} {n : Nat} {body : List Text} {e : Nat × Text}
    (member : e ∈ callsFrom inLiteral n body) :
    ∃ i line, body[i]? = some line ∧ e.1 = n + i ∧ (ofLine line).text? = some e.2 := by
  induction body generalizing inLiteral n with
  | nil => cases member
  | cons line body ih =>
      simp only [callsFrom, List.mem_append, Option.mem_toList, Option.map_eq_some_iff] at member
      rcases member with ⟨t, called, rfl⟩ | later
      · exact ⟨0, line, rfl, rfl, text?_of_step called⟩
      · obtain ⟨i, found, here, place, carried⟩ := ih later
        exact ⟨i + 1, found, here, by omega, carried⟩

end CallLine

namespace Block

theorem bodyOf_line {opener : Opener} {lines : List Text} {i : Nat} {line : Text}
    (found : (bodyOf opener lines)[i]? = some line) :
    ∃ source, lines[i]? = some source ∧ trim source = line := by
  obtain ⟨tail, whole⟩ := bodyOf_isPrefix opener lines
  have bound := (List.getElem?_eq_some_iff.mp found).1
  have inside : (lines.map trim)[i]? = some line := by
    rw [← whole, List.getElem?_append_left bound, found]
  rwa [List.getElem?_map, Option.map_eq_some_iff] at inside

end Block

namespace StepDefinition

theorem nested_of_closed {file : SourcePath} {d : StepDeclaration} {n : Nat} {below : List Text}
    (closed : d.block.closed = true) {e : Location × Text}
    (member : e ∈ (ofBlock file d ⟨.step d, n + 1, Block.bodyBelow d.block below⟩).nested) :
    e.1 = ⟨file, n + 1⟩ ∧ ∃ code, d.block.code = some code ∧
      (CallLine.ofLine (trim code)).text? = some e.2 := by
  rw [ofBlock_nested] at member
  obtain ⟨call, called, rfl⟩ := List.mem_map.mp member
  obtain ⟨i, line, found, place, carried⟩ := CallLine.mem_callsFrom called
  simp only [Block.bodyBelow, closed, if_true] at found
  cases written : d.block.code with
  | none => simp [written] at found
  | some code =>
      rw [written] at found
      cases i with
      | zero =>
          obtain rfl : trim code = line := by simpa using found
          refine ⟨?_, code, rfl, carried⟩
          simp [Block.anchor, Block.isInline, Declaration.block, closed, place]
      | succ i => simp at found

theorem nested_of_not_closed {file : SourcePath} {d : StepDeclaration} {n : Nat} {below : List Text}
    (continued : d.block.closed = false) {e : Location × Text}
    (member : e ∈ (ofBlock file d ⟨.step d, n + 1, Block.bodyBelow d.block below⟩).nested) :
    ∃ i source, below[i]? = some source ∧ e.1 = ⟨file, n + 2 + i⟩ ∧
      (CallLine.ofLine (trim source)).text? = some e.2 := by
  rw [ofBlock_nested] at member
  obtain ⟨call, called, rfl⟩ := List.mem_map.mp member
  obtain ⟨i, line, found, place, carried⟩ := CallLine.mem_callsFrom called
  simp only [Block.bodyBelow, continued, Bool.false_eq_true, if_false] at found
  obtain ⟨source, there, rfl⟩ := Block.bodyOf_line found
  refine ⟨i, source, there, ?_, carried⟩
  simp only [Block.anchor, Block.isInline, Declaration.block, continued, Bool.false_eq_true, if_false,
    place, Location.mk.injEq, true_and]
  omega

/-- What the declaration on line `l` says of where a nested call is and what it calls: on the line of
the declaration what the code there carries, else on a line below it and above every later declaration
what that line carries. -/
def CallWritten (t : Text) (l : NumberedLine) (block : BlockStart) (line : Nat) (text : Text) : Prop :=
  if block.closed then
    line = l.number ∧ ∃ code, block.code = some code ∧ (CallLine.ofLine (trim code)).text? = some text
  else
    l.number < line ∧ line ≤ (lines t).length ∧
      (∀ next ∈ NumberedLine.ofText t, l.number < next.number →
        (Declaration.read? next.text).isSome → line < next.number) ∧
      ∃ source, ⟨line, source⟩ ∈ NumberedLine.ofText t ∧
        (CallLine.ofLine (trim source)).text? = some text

theorem mem_ofText_declared {file : SourcePath} {t : Text} {d : StepDefinition}
    (member : d ∈ ofText file t) :
    ∃ before line rest declaration, lines t = before ++ line :: rest ∧
      StepDeclaration.read? line = some declaration ∧
      d = ofBlock file declaration ⟨.step declaration, before.length + 1,
        Block.bodyBelow declaration.block
          (rest.takeWhile fun line => (Declaration.read? line).isNone)⟩ := by
  obtain ⟨b, block, declaration, kind, rfl⟩ := mem_ofText member
  obtain ⟨before, line, read, rest, split, declared, rfl⟩ := Block.exists_of_mem_split block
  obtain rfl : read = .step declaration := kind
  refine ⟨before, line, rest, declaration, split, Declaration.read?_eq_step.mp declared, ?_⟩
  rw [Nat.add_comm]
  rfl

theorem callWritten_of_mem_nested {file : SourcePath} {t : Text} {before rest : List Text}
    {line : Text} {d : StepDeclaration} (split : lines t = before ++ line :: rest)
    {e : Location × Text}
    (member : e ∈ (ofBlock file d ⟨.step d, before.length + 1, Block.bodyBelow d.block
      (rest.takeWhile fun line => (Declaration.read? line).isNone)⟩).nested) :
    e.1.file = file ∧ CallWritten t ⟨before.length + 1, line⟩ d.block e.1.line e.2 := by
  unfold CallWritten
  cases closed : d.block.closed with
  | true =>
      obtain ⟨place, written⟩ := nested_of_closed closed member
      rw [place]
      exact ⟨rfl, rfl, written⟩
  | false =>
      obtain ⟨i, source, found, place, carried⟩ := nested_of_not_closed closed member
      obtain ⟨tail, whole⟩ := List.takeWhile_prefix (l := rest)
        fun line => (Declaration.read? line).isNone
      have bound := (List.getElem?_eq_some_iff.mp found).1
      have here (m : Nat) : (lines t)[before.length + 1 + m]? = rest[m]? := by
        rw [split, List.getElem?_append_right (by omega)]
        simp [Nat.add_assoc, Nat.add_comm 1 m]
      have written : (lines t)[before.length + 1 + i]? = some source := by
        rw [here, ← whole, List.getElem?_append_left bound, found]
      rw [place]
      refine ⟨rfl, ?_, ?_, ?_, source, ?_, carried⟩
      · simp only
        omega
      · have := (List.getElem?_eq_some_iff.mp written).1
        simp only
        omega
      · intro next member later declared
        replace later : before.length + 1 < next.number := later
        obtain ⟨j, found', number⟩ := NumberedLine.mem_countFrom.mp member
        obtain ⟨m, rfl⟩ : ∃ m, j = before.length + 1 + m := ⟨j - (before.length + 1), by omega⟩
        rw [here] at found'
        -- A line that the body can reach declares nothing.
        by_contra reached
        have inside : m < (rest.takeWhile fun line => (Declaration.read? line).isNone).length := by
          simp only at reached
          omega
        rw [← whole, List.getElem?_append_left inside] at found'
        have nothing := List.mem_takeWhile_imp (List.mem_of_getElem? found')
        rw [Option.isNone_iff_eq_none.mp nothing] at declared
        cases declared
      · refine NumberedLine.mem_countFrom.mpr ⟨before.length + 1 + i, written, ?_⟩
        simp only
        omega

/-- Every nested call is located where it is written, and the lines of all nested calls of a file,
definition by definition, ascend. -/
theorem ofText_nested_located (file : SourcePath) (t : Text) :
    (∀ d ∈ ofText file t, ∃ l ∈ NumberedLine.ofText t, ∃ declaration,
      d.card.location = ⟨file, l.number⟩ ∧ StepDeclaration.read? l.text = some declaration ∧
      ∀ e ∈ d.nested, e.1.file = file ∧ CallWritten t l declaration.block e.1.line e.2) ∧
    ((ofText file t).flatMap fun d => d.nested.map fun e => e.1.line).Pairwise (· < ·) ∧
    ((ofText file t).flatMap fun d => d.nested.map Prod.fst).Nodup := by
  have ascending : ((ofText file t).flatMap fun d => d.nested.map Prod.fst).Pairwise
      fun a b => a.line < b.line := by
    refine List.pairwise_flatMap.mpr ⟨fun d member => ?_, ?_⟩
    · exact List.pairwise_map.mpr (ofText_nested_pairwise member)
    · refine (ofText_pairwise file t).imp ?_
      rintro d d' ⟨-, below⟩ a called b called'
      obtain ⟨e, nested, rfl⟩ := List.mem_map.mp called
      obtain ⟨e', nested', rfl⟩ := List.mem_map.mp called'
      exact below e nested e' nested'
  refine ⟨fun d member => ?_, ?_, ?_⟩
  · obtain ⟨before, line, rest, declaration, split, declared, rfl⟩ := mem_ofText_declared member
    refine ⟨⟨before.length + 1, line⟩, ?_, declaration, rfl, declared, fun e called => ?_⟩
    · refine NumberedLine.mem_countFrom.mpr ⟨before.length, by simp [split], ?_⟩
      exact Nat.add_comm _ _
    · exact callWritten_of_mem_nested split called
  · simpa only [List.map_flatMap, List.map_map, Function.comp_def] using
      List.pairwise_map.mpr ascending
  · exact ascending.imp fun less same => absurd (congrArg Location.line same) (Nat.ne_of_lt less)

end StepDefinition

/-- A definition with its body on one line, and one whose body calls a step in a literal. -/
def literalSteps : SourcePath × Text :=
  (⟨"cart.rb"⟩, "Given /a/ \x7b step 'b' \x7d\nWhen 'b' do\nsteps %Q\x7b\nGiven c\n\x7d\nend")

theorem StepDefinition.ofText_nested_located_literal :
    ((ofText literalSteps.1 literalSteps.2).flatMap fun d => d.nested.map fun e => (e.1.line, e.2)) =
        [(1, ['b']), (4, ['c'])] ∧
      ∀ d ∈ ofText literalSteps.1 literalSteps.2, ∃ l declaration,
        StepDeclaration.read? l.text = some declaration ∧
        ∀ e ∈ d.nested, CallWritten literalSteps.2 l declaration.block e.1.line e.2 := by
  refine ⟨by decide +kernel, fun d member => ?_⟩
  obtain ⟨l, -, declaration, -, declared, calls⟩ :=
    (ofText_nested_located literalSteps.1 literalSteps.2).1 d member
  exact ⟨l, declaration, declared, fun e called => (calls e called).2⟩

end SuiteAudit
