import SuiteAudit.Text.Property

/-!
# Tag expressions

The tags that the filter of a hook mentions, and which of them it excludes by `~` or `not`.
-/

namespace SuiteAudit

/-- A tag in a filter. The negation is kept as it is written. -/
structure TagToken where
  negation : Option Text
  tag : Text
deriving DecidableEq, Repr

namespace TagToken

open Text

def text (k : TagToken) : Text := k.negation.getD [] ++ k.tag

def isNegated (k : TagToken) : Bool := k.negation.isSome

def isTagChar (c : Char) : Bool := !isBlank c && c != ',' && c != '(' && c != ')'

def tag? : Text → Option Text
  | '@' :: t =>
    let name := t.takeWhile isTagChar
    if name.isEmpty then none else some ('@' :: name)
  | _ => none

def negation? (t : Text) : Option Text := do
  let rest ← after? "not" t
  let blanks := rest.takeWhile isBlank
  if blanks.isEmpty then none else some ("not".toList ++ blanks)

/-- The token at the start of a text that the character `before` precedes. -/
def read? (before : Option Char) (t : Text) : Option TagToken :=
  match t with
  | '~' :: rest => (tag? rest).map fun tag => ⟨some ['~'], tag⟩
  | '@' :: _ => (tag? t).map fun tag => ⟨none, tag⟩
  | _ =>
    if before.any isWordChar then none
    else do
      let negation ← negation? t
      let tag ← tag? (t.drop negation.length)
      return ⟨some negation, tag⟩

def all (t : Text) : List TagToken :=
  findAll (fun before t => (read? before t).map fun k => (k, k.text.length)) t

end TagToken

end SuiteAudit
