import SuiteAudit.Proofs.Feature.StepLines
import SuiteAudit.Proofs.List
import SuiteAudit.Proofs.StepFile.Trim
import SuiteAudit.Proofs.Text.Lines

/-!
# Declarations and what is read of them

The lines of a step file that declare something correspond to its definitions and hooks one by one, in
the order of the file (`StepDefinition.ofText_forall₂`, `Hook.ofText_forall₂`).
-/

namespace SuiteAudit

open Text

theorem Block.split_forall₂ (n : Nat) (lines : List Text) :
    List.Forall₂ (fun l b => b.line = l.number ∧ Declaration.read? l.text = some b.declaration)
      ((NumberedLine.countFrom n lines).filter fun l => (Declaration.read? l.text).isSome)
      (Block.split n lines) := by
  induction lines generalizing n with
  | nil => exact .nil
  | cons line lines ih =>
      cases declared : Declaration.read? line with
      | none => simpa [NumberedLine.countFrom, Block.split, declared] using ih (n + 1)
      | some d => simpa [NumberedLine.countFrom, Block.split, declared] using ih (n + 1)

theorem Declaration.read?_eq_step {line : Text} {d : StepDeclaration} :
    Declaration.read? line = some (.step d) ↔ StepDeclaration.read? line = some d := by
  cases step : StepDeclaration.read? line <;> simp [Declaration.read?, step]

theorem Declaration.read?_eq_hook {line : Text} {d : HookDeclaration} :
    Declaration.read? line = some (.hook d) ↔
      StepDeclaration.read? line = none ∧ HookDeclaration.read? line = some d := by
  cases step : StepDeclaration.read? line <;> simp [Declaration.read?, step]

/-- The line declares the definition: what the trimmed line says is what the definition has, and the
definition is located there. -/
def StepDefinition.DeclaredBy (file : SourcePath) (l : NumberedLine) (d : StepDefinition) : Prop :=
  d.card.location = ⟨file, l.number⟩ ∧ ∃ declaration body,
    StepDeclaration.read? (trim l.text) = some declaration ∧
      d = ofBlock file declaration ⟨.step declaration, l.number, body⟩

/-- The line declares the hook, and its word is that of the kind of the hook. -/
def Hook.DeclaredBy (file : SourcePath) (l : NumberedLine) (h : Hook) : Prop :=
  h.card.location = ⟨file, l.number⟩ ∧ ∃ declaration body,
    HookDeclaration.read? (trim l.text) = some declaration ∧
      HookKind.ofText? declaration.kind.text = some h.kind ∧
      h = ofBlock file declaration ⟨.hook declaration, l.number, body⟩

theorem Block.ofText_forall₂ (t : Text) :
    List.Forall₂ (fun l b => '\n' ∉ l.text ∧ b.line = l.number ∧
        Declaration.read? l.text = some b.declaration)
      ((NumberedLine.ofText t).filter fun l => (Declaration.read? l.text).isSome)
      (Block.ofText t) := by
  refine (List.forall₂_and_left _ _).mpr ⟨fun l member => ?_, Block.split_forall₂ 1 (lines t)⟩
  exact not_mem_of_mem_lines (NumberedLine.mem_of_mem_countFrom (List.mem_of_mem_filter member))

theorem StepDefinition.ofText_forall₂ (file : SourcePath) (t : Text) :
    List.Forall₂ (DeclaredBy file)
      ((NumberedLine.ofText t).filter fun l => (StepDeclaration.read? l.text).isSome)
      (ofText file t) := by
  have steps : (NumberedLine.ofText t).filter (fun l => (StepDeclaration.read? l.text).isSome) =
      ((NumberedLine.ofText t).filter fun l => (Declaration.read? l.text).isSome).filter
        fun l => (StepDeclaration.read? l.text).isSome := by
    rw [List.filter_filter]
    refine List.filter_congr fun l _ => ?_
    cases step : StepDeclaration.read? l.text <;> simp [Declaration.read?, step]
  rw [steps]
  refine forall₂_filter_filterMap (Block.ofText_forall₂ t) ?_ ?_
  · rintro l ⟨declaration, line, body⟩ ⟨oneLine, rfl, declared⟩ step
    obtain ⟨d, read⟩ := Option.isSome_iff_exists.mp step
    obtain rfl : declaration = .step d :=
      Option.some.inj (declared.symm.trans (Declaration.read?_eq_step.mpr read))
    refine ⟨ofBlock file d ⟨.step d, l.number, body⟩, rfl, rfl, d, body, ?_, rfl⟩
    rw [StepDeclaration.read?_trim oneLine, read]
  · rintro l ⟨declaration, line, body⟩ ⟨-, -, declared⟩ other
    cases declaration with
    | step d => simp [Declaration.read?_eq_step.mp declared] at other
    | hook d => rfl

theorem Hook.ofText_forall₂ (file : SourcePath) (t : Text) :
    List.Forall₂ (DeclaredBy file)
      ((NumberedLine.ofText t).filter fun l =>
        (StepDeclaration.read? l.text).isNone && (HookDeclaration.read? l.text).isSome)
      (ofText file t) := by
  have hooks : (NumberedLine.ofText t).filter (fun l =>
        (StepDeclaration.read? l.text).isNone && (HookDeclaration.read? l.text).isSome) =
      ((NumberedLine.ofText t).filter fun l => (Declaration.read? l.text).isSome).filter
        fun l => (StepDeclaration.read? l.text).isNone := by
    rw [List.filter_filter]
    refine List.filter_congr fun l _ => ?_
    cases step : StepDeclaration.read? l.text <;> simp [Declaration.read?, step]
  rw [hooks]
  refine forall₂_filter_filterMap (Block.ofText_forall₂ t) ?_ ?_
  · rintro l ⟨declaration, line, body⟩ ⟨oneLine, rfl, declared⟩ other
    cases declaration with
    | step d => simp [Declaration.read?_eq_step.mp declared] at other
    | hook d =>
        have read := (Declaration.read?_eq_hook.mp declared).2
        refine ⟨ofBlock file d ⟨.hook d, l.number, body⟩, rfl, rfl, d, body, ?_, ?_, rfl⟩
        · rw [HookDeclaration.read?_trim oneLine, read]
        · change HookKind.ofText? d.kind.text = some d.kind
          cases d.kind <;> decide
  · rintro l ⟨declaration, line, body⟩ ⟨-, -, declared⟩ step
    cases declaration with
    | step d => rfl
    | hook d => simp [(Declaration.read?_eq_hook.mp declared).1] at step

theorem pairwise_lt_of_forall₂ {α : Type} {line : α → Nat} {t : Text} {test : NumberedLine → Bool}
    {nodes : List α}
    (placed : List.Forall₂ (fun l a => line a = l.number) ((NumberedLine.ofText t).filter test) nodes) :
    nodes.Pairwise fun a b => line a < line b := by
  have same : nodes.map line = ((NumberedLine.ofText t).filter test).map NumberedLine.number := by
    rw [← List.forall₂_eq_eq_eq, List.forall₂_map_left_iff, List.forall₂_map_right_iff]
    exact placed.flip
  have inFile : (((NumberedLine.ofText t).filter test).map NumberedLine.number).Sublist
      (List.range' 1 (lines t).length) := by
    rw [← NumberedLine.ofText_numbers]
    exact List.filter_sublist.map _
  rw [← List.pairwise_map, same]
  exact List.Pairwise.sublist inFile (List.pairwise_lt_range' 1)

/-- Every line that declares a step definition gives one definition there, every other line that
declares a hook gives one hook there, and nothing else is read; the nodes are in the order of their
lines. Read again without the white space around it, a line declares what it did. -/
theorem nodes_declared_one_by_one (file : SourcePath) (t : Text) :
    List.Forall₂ (StepDefinition.DeclaredBy file)
        ((NumberedLine.ofText t).filter fun l => (StepDeclaration.read? l.text).isSome)
        (StepDefinition.ofText file t) ∧
      List.Forall₂ (Hook.DeclaredBy file)
        ((NumberedLine.ofText t).filter fun l =>
          (StepDeclaration.read? l.text).isNone && (HookDeclaration.read? l.text).isSome)
        (Hook.ofText file t) ∧
      (StepDefinition.ofText file t).Pairwise
        (fun d e => d.card.location.line < e.card.location.line) ∧
      (Hook.ofText file t).Pairwise (fun h k => h.card.location.line < k.card.location.line) ∧
      ∀ line ∈ Text.lines t, StepDeclaration.read? (trim line) = StepDeclaration.read? line ∧
        HookDeclaration.read? (trim line) = HookDeclaration.read? line := by
  have definitions := StepDefinition.ofText_forall₂ file t
  have hooks := Hook.ofText_forall₂ file t
  refine ⟨definitions, hooks, ?_, ?_, ?_⟩
  · exact pairwise_lt_of_forall₂ (definitions.imp fun l d declared => by rw [declared.1])
  · exact pairwise_lt_of_forall₂ (hooks.imp fun l h declared => by rw [declared.1])
  · intro line member
    have oneLine := not_mem_of_mem_lines member
    exact ⟨StepDeclaration.read?_trim oneLine, HookDeclaration.read?_trim oneLine⟩

/-- A declared step and a declared hook with white space around the words. -/
def indentedSteps : SourcePath × Text :=
  (⟨"cart.rb"⟩, "  Given 'a' do  \nend\n\tBefore('@b') do\nend")

theorem nodes_declared_one_by_one_indented :
    ((StepDefinition.ofText indentedSteps.1 indentedSteps.2).map fun d => d.card.location.line) = [1] ∧
      ((Hook.ofText indentedSteps.1 indentedSteps.2).map fun h => h.card.location.line) = [3] ∧
      "  Given 'a' do  ".toList ∈ Text.lines indentedSteps.2 ∧
      StepDeclaration.read? (trim "  Given 'a' do  ") = StepDeclaration.read? "  Given 'a' do  " := by
  have written : "  Given 'a' do  ".toList ∈ Text.lines indentedSteps.2 := by decide +kernel
  obtain ⟨-, -, -, -, trimmed⟩ := nodes_declared_one_by_one indentedSteps.1 indentedSteps.2
  exact ⟨by decide +kernel, by decide +kernel, written, (trimmed _ written).1⟩

end SuiteAudit
