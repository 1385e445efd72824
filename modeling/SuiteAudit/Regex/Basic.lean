import SuiteAudit.Regex.CharSet

/-!
# Regular expressions

Expressions over characters and places of a text. Whether one occurs in a text is decided by
carrying the set of positions reached so far through the expression, so the time is polynomial for
every expression, and the greed of a repetition plays no role.
-/

namespace SuiteAudit

/-- A condition on a place, given the characters before and after it. `ascii` restricts what counts
as a word character. -/
inductive Assertion
  | textStart
  | textEnd
  | lineStart
  | lineEnd
  /-- Lines may also end in a carriage return. -/
  | returnLineStart
  | returnLineEnd
  | wordBoundary (ascii : Bool)
  | noWordBoundary (ascii : Bool)
  | wordStart (ascii : Bool)
  | wordEnd (ascii : Bool)
  | afterNoWord (ascii : Bool)
  | beforeNoWord (ascii : Bool)

namespace Assertion

def isWord (ascii : Bool) (c : Option Char) : Bool :=
  c.any fun c => if ascii then CharSet.asciiWord.mem c else Text.isWordChar c

def holds : Assertion → (before after : Option Char) → Bool
  | textStart, b, _ => b.isNone
  | textEnd, _, a => a.isNone
  | lineStart, b, _ => b.all (· == '\n')
  | lineEnd, _, a => a.all (· == '\n')
  | returnLineStart, b, a =>
    b.all fun c => c == '\n' || (c == '\r' && a != some '\n')
  | returnLineEnd, b, a =>
    a.all fun c => c == '\r' || (c == '\n' && b != some '\r')
  | wordBoundary ascii, b, a => isWord ascii b != isWord ascii a
  | noWordBoundary ascii, b, a => isWord ascii b == isWord ascii a
  | wordStart ascii, b, a => !isWord ascii b && isWord ascii a
  | wordEnd ascii, b, a => isWord ascii b && !isWord ascii a
  | afterNoWord ascii, b, _ => !isWord ascii b
  | beforeNoWord ascii, _, a => !isWord ascii a

end Assertion

inductive Regex
  | empty
  | char (s : CharSet)
  | place (a : Assertion)
  | seq (r s : Regex)
  | alt (r s : Regex)
  | star (r : Regex)

namespace Regex

/-! ## Derived expressions -/

def seqs (rs : List Regex) : Regex := rs.foldr seq empty

def alts : List Regex → Regex
  | [] => char CharSet.nothing
  | [r] => r
  | r :: s :: rs => alt r (alts (s :: rs))

def literal (t : Text) : Regex := seqs (t.map fun c => char (CharSet.single c))

def caselessLiteral (t : Text) : Regex :=
  seqs (t.map fun c => char (CharSet.caseless (CharSet.single c)))

def opt (r : Regex) : Regex := alt r empty

def plus (r : Regex) : Regex := seq r (star r)

def times (r : Regex) : Nat → Regex
  | 0 => empty
  | n + 1 => seq r (times r n)

def upTo (r : Regex) : Nat → Regex
  | 0 => empty
  | n + 1 => opt (seq r (upTo r n))

/-- At least `least` matches, and at most `most` if that is given. -/
def counted (r : Regex) (least : Nat) : (most : Option Nat) → Regex
  | none => seq (times r least) (star r)
  | some most => seq (times r least) (upTo r (most - least))

def anyText : Regex := star (char CharSet.notLineFeed)

def whole (r : Regex) : Regex := seq (place .textStart) (seq r (place .textEnd))

/-! ## Matching -/

/-- The characters before and after every place of a text that `before` precedes. -/
def gaps (before : Option Char) : Text → List (Option Char × Option Char)
  | [] => [(before, none)]
  | c :: t => (before, some c) :: gaps (some c) t

def either (p q : List Bool) : List Bool := List.zipWith (· || ·) p q

/-- The least set of places that includes `p` and that `f` does not leave, found by at most `n`
rounds. -/
def closure (f : List Bool → List Bool) : (n : Nat) → (p : List Bool) → List Bool
  | 0, p => p
  | n + 1, p =>
    let q := either p (f p)
    if q = p then p else closure f n q

/-- The places of the text `t` that can be reached from a place in `p` by a match. A set of places
is a list of truth values, one for each place from the start of the text to its end. -/
def reach (t : Text) : Regex → (p : List Bool) → List Bool
  | empty, p => p
  | char s, p => false :: List.zipWith (fun b c => b && s.mem c) p t
  | place a, p => List.zipWith (fun b (g : Option Char × Option Char) => b && a.holds g.1 g.2) p
      (gaps none t)
  | seq r s, p => reach t s (reach t r p)
  | alt r s, p => either (reach t r p) (reach t s p)
  | star r, p => closure (reach t r) p.length p

/-- Whether the expression matches some part of the text. -/
def isMatch (r : Regex) (t : Text) : Bool :=
  (reach t r (List.replicate (t.length + 1) true)).any id

/-! ## Quoting -/

def isMeta (c : Char) : Bool :=
  Text.holds [c] "\\.+*?()|[]\x7b\x7d^$#&-~"

def escape (t : Text) : Text := t.flatMap fun c => if isMeta c then ['\\', c] else [c]

end Regex

end SuiteAudit
