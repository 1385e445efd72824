import SuiteAudit.Text.Basic

/-!
# Quoted strings

Strings between quotes as step files write them, with and without backslash escapes.
-/

namespace SuiteAudit.Quoted

/-- The content of a string up to its closing quote `q`, escapes left as they are, and what follows
the quote. A backslash takes the next character with it and cannot stand before a line feed. -/
def escaped? (q : Char) : Text → Option (Text × Text)
  | [] => none
  | '\\' :: d :: t =>
    if d = '\n' then none else (escaped? q t).map fun (s, rest) => ('\\' :: d :: s, rest)
  | c :: t =>
    if c = q then some ([], t)
    else if c = '\\' then none
    else (escaped? q t).map fun (s, rest) => (c :: s, rest)

def plain? : Text → Option ((Char × Text) × Text)
  | '\'' :: t => (Text.cut? '\'' t).map fun (s, rest) => (('\'', s), rest)
  | '"' :: t => (Text.cut? '"' t).map fun (s, rest) => (('"', s), rest)
  | _ => none

def all (t : Text) : List (Char × Text) :=
  Text.findAll (fun _ t => (plain? t).map fun ((q, s), _) => ((q, s), s.length + 2)) t

end SuiteAudit.Quoted
