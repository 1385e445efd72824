/-!
# Texts

A text is a list of characters, so that every reading function is a recursion on it. This module
holds the white space of Unicode and the few cutting and joining operations that the readers of
feature files and step files share.
-/

namespace SuiteAudit

abbrev Text := List Char

instance : Coe String Text := ⟨String.toList⟩

namespace Text

/-! ## White space -/

/-- The characters with the Unicode property `White_Space`. -/
def isBlank (c : Char) : Bool :=
  let n := c.toNat
  (9 ≤ n && n ≤ 13) || n == 0x20 || n == 0x85 || n == 0xA0 || n == 0x1680 ||
    (0x2000 ≤ n && n ≤ 0x200A) || n == 0x2028 || n == 0x2029 || n == 0x202F || n == 0x205F ||
    n == 0x3000

def trimStart (t : Text) : Text := t.dropWhile isBlank

def trimEnd (t : Text) : Text := (t.reverse.dropWhile isBlank).reverse

def trim (t : Text) : Text := trimEnd (trimStart t)

def allBlank (t : Text) : Bool := t.all isBlank

def hasLineFeed (t : Text) : Bool := t.contains '\n'

/-- The words, a word being a maximal run of characters that are not blank. -/
def words : Text → List Text
  | [] => []
  | [c] => if isBlank c then [] else [[c]]
  | c :: d :: t =>
    if isBlank c then words (d :: t)
    else if isBlank d then [c] :: words (d :: t)
    else match words (d :: t) with
      | [] => [[c]]
      | w :: ws => (c :: w) :: ws

/-! ## Beginnings and ends -/

/-- What follows `head` when the text begins with it. -/
def after? : (head : Text) → Text → Option Text
  | [], t => some t
  | _ :: _, [] => none
  | h :: head, c :: t => if h = c then after? head t else none

/-- What precedes `tail` when the text ends with it. -/
def before? (tail t : Text) : Option Text :=
  (after? tail.reverse t.reverse).map List.reverse

/-- The first of `heads` that the text begins with, and what follows it. -/
def afterAny? (heads : List Text) (t : Text) : Option (Text × Text) :=
  heads.findSome? fun head => (after? head t).map fun rest => (head, rest)

def afterLast? (c : Char) (t : Text) : Option Text :=
  if t.contains c then some (t.reverse.takeWhile (· != c)).reverse else none

def cut? (c : Char) : Text → Option (Text × Text)
  | [] => none
  | d :: t => if d = c then some ([], t) else (cut? c t).map fun (l, r) => (d :: l, r)

def dropMark : Text → Text
  | '\ufeff' :: t => t
  | t => t

/-! ## Pieces -/

/-- The pieces between the occurrences of `c`, empty ones included. -/
def split (c : Char) : Text → List Text
  | [] => [[]]
  | d :: t =>
    if d = c then [] :: split c t
    else match split c t with
      | [] => [[d]]
      | p :: ps => (d :: p) :: ps

def join (sep : Text) : List Text → Text
  | [] => []
  | [p] => p
  | p :: q :: ps => p ++ sep ++ join sep (q :: ps)

def holds (part : Text) : Text → Bool
  | [] => part.isEmpty
  | c :: t => part.isPrefixOf (c :: t) || holds part t

/-! ## Scanning -/

/-- What is found in a text, from left to right. At each place `step` reads the text from there on,
given the character `before` it, and says what it finds and how many characters after the first
belong to that. The first `skip` characters belong to something that is found already. -/
def scanFrom {α : Type} (step : Option Char → Text → List α × Nat) :
    (before : Option Char) → (skip : Nat) → Text → List α
  | _, _, [] => []
  | _, skip + 1, c :: t => scanFrom step (some c) skip t
  | before, 0, c :: t =>
    let (found, skip) := step before (c :: t)
    found ++ scanFrom step (some c) skip t

/-- The items of a text, where `find` gives the item that a text starts with and its length. -/
def findAll {α : Type} (find : Option Char → Text → Option (α × Nat)) (t : Text) : List α :=
  let step (before : Option Char) (t : Text) : List α × Nat :=
    match find before t with
    | some (item, n) => ([item], n - 1)
    | none => ([], 0)
  scanFrom step none 0 t

def replaceFirst (find : Text → Option (Text × Nat)) (t : Text) : Text × Nat :=
  match find t with
  | some (new, n) => (new, n - 1)
  | none => (t.take 1, 0)

/-- The text with other texts for some of its parts, where `find` gives the text for the part that a
text starts with and the length of the part. -/
def replaceEach (find : Text → Option (Text × Nat)) (t : Text) : Text :=
  scanFrom (fun _ => replaceFirst find) none 0 t

/-- The text with `new` for every occurrence of the non-empty text `old`. -/
def replace (old new t : Text) : Text :=
  replaceEach (fun t => if old.isPrefixOf t then some (new, old.length) else none) t

def upTo (rest t : Text) : Text × Nat :=
  let n := t.length - rest.length
  (t.take n, n)

/-! ## Lines -/

/-- The lines of a text. A line ends at a line feed, and a carriage return right before that
belongs to the ending; nothing after the last line feed is no line. -/
def lines : Text → List Text
  | [] => []
  | '\r' :: '\n' :: t => [] :: lines t
  | '\n' :: t => [] :: lines t
  | c :: t => match lines t with
    | [] => [[c]]
    | l :: ls => (c :: l) :: ls

/-! ## Numbers and order -/

def ofNat (n : Nat) : Text := Nat.toDigits 10 n

def isDecimal (c : Char) : Bool := '0' ≤ c && c ≤ '9'

def digitsValue (t : Text) : Nat := t.foldl (fun n c => 10 * n + (c.toNat - '0'.toNat)) 0

def toNat? (t : Text) : Option Nat :=
  if !t.isEmpty && t.all isDecimal then some (digitsValue t) else none

/-- Texts in dictionary order of their code points, which is the order of their UTF-8 bytes. -/
def order : Text → Text → Ordering
  | [], [] => .eq
  | [], _ :: _ => .lt
  | _ :: _, [] => .gt
  | c :: s, d :: t => (compare c.toNat d.toNat).then (order s t)

def padStart (width : Nat) (t : Text) : Text := List.replicate (width - t.length) ' ' ++ t

end Text

end SuiteAudit
