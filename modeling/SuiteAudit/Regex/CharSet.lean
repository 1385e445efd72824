import SuiteAudit.Text.Folding
import SuiteAudit.Text.Property

/-!
# Character sets

The sets of characters that a pattern can describe, as expressions with a membership test.
-/

namespace SuiteAudit

inductive CharSet
  | nothing
  | range (lo hi : Char)
  /-- Decimal digits of any script. -/
  | digit
  | blank
  | word
  | category (k : Text.Category)
  /-- The characters of a group of general categories, such as all letters. -/
  | group (g : Char)
  | having (p : Char → Bool)
  | compl (s : CharSet)
  | union (s t : CharSet)
  | inter (s t : CharSet)
  /-- The characters that differ from one in the set by case only. -/
  | caseless (s : CharSet)
  | asciiCaseless (s : CharSet)

namespace CharSet

def mem : CharSet → Char → Bool
  | nothing, _ => false
  | range lo hi, c => lo ≤ c && c ≤ hi
  | digit, c => Text.isDigit c
  | blank, c => Text.isBlank c
  | word, c => Text.isWordChar c
  | category k, c => Text.category c = k
  | group g, c => (Text.category c).group = g
  | having p, c => p c
  | compl s, c => !s.mem c
  | union s t, c => s.mem c || t.mem c
  | inter s t, c => s.mem c && t.mem c
  | caseless s, c => (Text.caseVariants c).any s.mem
  | asciiCaseless s, c => (Text.asciiVariants c).any s.mem

def all : CharSet := compl nothing

def single (c : Char) : CharSet := range c c

def notLineFeed : CharSet := compl (single '\n')

def unions (ss : List CharSet) : CharSet := ss.foldr union nothing

def diff (s t : CharSet) : CharSet := inter s (compl t)

def symmDiff (s t : CharSet) : CharSet := union (diff s t) (diff t s)

def negateIf (negated : Bool) (s : CharSet) : CharSet := if negated then compl s else s

def ofText (t : Text) : CharSet := unions (t.map single)

def asciiDigit : CharSet := range '0' '9'

def asciiBlank : CharSet := union (range '\t' '\r') (single ' ')

def asciiAlpha : CharSet := union (range 'A' 'Z') (range 'a' 'z')

def asciiWord : CharSet := unions [asciiDigit, asciiAlpha, single '_']

/-- The named classes `[:name:]`, all of them within ASCII. -/
def ofAsciiName? (name : Text) : Option CharSet :=
  match String.ofList name with
  | "alnum" => some (union asciiDigit asciiAlpha)
  | "alpha" => some asciiAlpha
  | "ascii" => some (range '\x00' '\x7f')
  | "blank" => some (union (single '\t') (single ' '))
  | "cntrl" => some (union (range '\x00' '\x1f') (single '\x7f'))
  | "digit" => some asciiDigit
  | "graph" => some (range '!' '~')
  | "lower" => some (range 'a' 'z')
  | "print" => some (range ' ' '~')
  | "punct" => some (unions [range '!' '/', range ':' '@', range '[' '\x60', range '\x7b' '~'])
  | "space" => some asciiBlank
  | "upper" => some (range 'A' 'Z')
  | "word" => some asciiWord
  | "xdigit" => some (unions [asciiDigit, range 'A' 'F', range 'a' 'f'])
  | _ => none

/-- Whether all members below U+0100 lie below U+0080. -/
def isAscii (s : CharSet) : Bool :=
  (List.range 0x80).all fun n => !s.mem (Char.ofNat (0x80 + n))

end CharSet

end SuiteAudit
