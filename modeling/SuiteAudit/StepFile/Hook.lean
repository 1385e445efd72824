import SuiteAudit.StepFile.Definition

/-!
# Hooks

A hook runs its body around scenarios or steps, restricted by tag filters.
-/

namespace SuiteAudit

structure Hook where
  card : ScoreCard
  kind : HookKind
  filters : List Text
  parameters : List Text
  body : List Text
deriving DecidableEq, Repr

/-- The tag filters in the arguments of a hook: the contents of its strings, cut at commas. -/
def tagFilters (arguments : Text) : List Text :=
  ((Quoted.all arguments).flatMap fun s => (Text.split ',' s.2).map Text.trim).filter
    fun filter => !filter.isEmpty

namespace HookFilter

def text : HookFilter → Text
  | none => []
  | parenthesized t | bare t => t

end HookFilter

namespace Hook

def ofBlock (file : SourcePath) (d : HookDeclaration) (b : Block) : Hook :=
  { card := { location := ⟨file, b.line⟩ }
    kind := d.kind
    filters := tagFilters d.filter.text
    parameters := parameterNames (d.block.parameters.getD [])
    body := b.body }

def ofText (file : SourcePath) (t : Text) : List Hook :=
  (Block.ofText t).filterMap fun b => match b.declaration with
    | .step _ => Option.none
    | .hook d => some (ofBlock file d b)

def code (h : Hook) : List Text := codeLines h.body

end Hook

end SuiteAudit
