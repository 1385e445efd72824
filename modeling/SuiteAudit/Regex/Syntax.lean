import SuiteAudit.Regex.Basic
import SuiteAudit.Regex.Property

/-!
# The text of a regular expression

A reader for the usual notation: groups, alternatives, repetitions, bracketed classes with set
operations, inline flags, named properties and word boundaries. Look-around and back references are
not regular and are refused, as is everything else that the notation leaves undefined.

The reader keeps the groups that are open on a stack and goes through the text once. The flags in
force at a place decide what a character there means, so the expression is built while reading.

Limits on the size of an expression are not modelled. A compiler that stops at 10 MiB of compiled
code or at groups nested 250 deep refuses `\w{1,255}`, say, and takes its text literally where there
is a choice; here it is read as an expression (`ofText?`).
-/

namespace SuiteAudit.Regex

structure Flags where
  /-- `i`: letters match without regard to case. -/
  caseless : Bool := false
  /-- `m`: `^` and `$` match at every line. -/
  perLine : Bool := false
  /-- `s`: a dot matches the line feed too. -/
  dotAll : Bool := false
  /-- `R`: lines may end in a carriage return. -/
  returns : Bool := false
  /-- `x`: blanks and comments are skipped. -/
  spaced : Bool := false
  /-- `u`: classes are those of Unicode. -/
  unicode : Bool := true

inductive Escape
  /-- A character; `byte` if it is written as two hexadecimal digits. -/
  | literal (c : Char) (byte : Bool)
  | set (s : CharSet)
  | assertion (a : Assertion)

/-! ## Blanks and numbers -/

def afterComment (t : Text) : Text := (t.dropWhile (· != '\n')).drop 1

/-- The text after blanks and comments, skipping at most `fuel` of them. -/
def skipSpacing : (fuel : Nat) → Text → Text
  | 0, t => t
  | _, [] => []
  | fuel + 1, c :: t =>
    if Text.isBlank c then skipSpacing fuel t
    else if c = '#' then skipSpacing fuel (afterComment t)
    else c :: t

def Flags.next (f : Flags) (t : Text) : Text :=
  if f.spaced then skipSpacing t.length t else t

/-- The character that decides whether a hyphen makes a range: the next one that counts, except that
of a comment only its sign is skipped. -/
def Flags.glance (f : Flags) (t : Text) : Option Char :=
  if f.spaced then
    match t.dropWhile Text.isBlank with
    | '#' :: rest => (rest.dropWhile Text.isBlank).head?
    | rest => rest.head?
  else t.head?

def readDigits (f : Flags) : (fuel : Nat) → Text → Text × Text
  | 0, t => ([], t)
  | fuel + 1, t => match t with
    | c :: rest =>
      if Text.isDecimal c then
        let (ds, rest) := readDigits f fuel (f.next rest)
        (c :: ds, rest)
      else ([], t)
    | [] => ([], [])

/-- A repetition count and the text after it; the count is missing if there are no digits, and
there is no result if it is too large. -/
def readCount (f : Flags) (t : Text) : Option (Option Nat × Text) :=
  let (digits, rest) := readDigits f t.length (t.dropWhile Text.isBlank)
  let rest := f.next (rest.dropWhile Text.isBlank)
  if digits.isEmpty then some (none, rest)
  else
    let n := Text.digitsValue digits
    if n ≤ 0xFFFFFFFF then some (some n, rest) else none

/-! ## Escapes -/

def hexValue? (c : Char) : Option Nat :=
  if '0' ≤ c && c ≤ '9' then some (c.toNat - '0'.toNat)
  else if 'a' ≤ c && c ≤ 'f' then some (c.toNat - 'a'.toNat + 10)
  else if 'A' ≤ c && c ≤ 'F' then some (c.toNat - 'A'.toNat + 10)
  else none

def charOfCode? (n : Nat) : Option Char :=
  if n < 0xD800 || (0xDFFF < n && n < 0x110000) then some (Char.ofNat n) else none

/-- Exactly `count` hexadecimal digits, of which `value` is read already. -/
def readHexDigits (f : Flags) : (count value : Nat) → Text → Option (Nat × Text)
  | 0, value, t => some (value, t)
  | count + 1, value, t => match t with
    | c :: rest => do
      let d ← hexValue? c
      readHexDigits f count (16 * value + d) (f.next rest)
    | [] => none

def readHexBrace (f : Flags) : (fuel : Nat) → (value : Option Nat) → Text → Option (Nat × Text)
  | 0, _, _ => none
  | fuel + 1, value, t => match t with
    | '\x7d' :: rest => value.map fun n => (n, f.next rest)
    | c :: rest => do
      let d ← hexValue? c
      readHexBrace f fuel (some (16 * value.getD 0 + d)) (f.next rest)
    | [] => none

def readHex (f : Flags) (digits : Nat) (t : Text) : Option (Escape × Text) :=
  match f.next t with
  | [] => none
  | '\x7b' :: rest => do
    let (n, rest) ← readHexBrace f (rest.length + 1) none (f.next rest)
    let c ← charOfCode? n
    return (.literal c false, rest)
  | t => do
    let (n, rest) ← readHexDigits f digits 0 t
    let c ← charOfCode? n
    return (.literal c (digits == 2), rest)

def readName (f : Flags) : (fuel : Nat) → Text → Option (Text × Text)
  | 0, _ => none
  | fuel + 1, t => match t with
    | '\x7d' :: rest => some ([], rest)
    | c :: rest => (readName f fuel (f.next rest)).map fun (name, rest) => (c :: name, rest)
    | [] => none

def cutAt? (part : Text) : Text → Option (Text × Text)
  | [] => none
  | c :: t => match Text.after? part (c :: t) with
    | some rest => some ([], rest)
    | none => (cutAt? part t).map fun (l, r) => (c :: l, r)

def bracedProperty? (body : Text) : Option CharSet :=
  match cutAt? "!=" body with
  | some (name, value) => (CharSet.ofPropertyValue? name value).map .compl
  | none => match cutAt? ":" body with
    | some (name, value) => CharSet.ofPropertyValue? name value
    | none => match cutAt? "=" body with
      | some (name, value) => CharSet.ofPropertyValue? name value
      | none => CharSet.ofPropertyName? body

def readProperty (f : Flags) (t : Text) : Option (CharSet × Text) :=
  match f.next t with
  | [] => none
  | '\x7b' :: rest => do
    let (body, rest) ← readName f (rest.length + 1) (f.next rest)
    let s ← bracedProperty? body
    return (s, rest)
  | '\\' :: _ => none
  | c :: rest => do
    let s ← CharSet.ofPropertyName? [c]
    return (s, f.next rest)

def Flags.fold (f : Flags) (s : CharSet) : CharSet :=
  if f.caseless then (if f.unicode then .caseless s else .asciiCaseless s) else s

/-- The set, closed under case if the flags ask for it, or the complement of that. A set that is
not of Unicode must stay within ASCII. -/
def Flags.finish? (f : Flags) (negated : Bool) (s : CharSet) : Option CharSet :=
  let s := CharSet.negateIf negated (f.fold s)
  if f.unicode || s.isAscii then some s else none

def Flags.letterClass? (f : Flags) (c : Char) : Option CharSet :=
  let pick (unicode ascii : CharSet) : Option CharSet :=
    let s := CharSet.negateIf c.isUpper (if f.unicode then unicode else ascii)
    if f.unicode || s.isAscii then some s else none
  match c.toLower with
  | 'd' => pick .digit CharSet.asciiDigit
  | 's' => pick .blank CharSet.asciiBlank
  | _ => pick .word CharSet.asciiWord

/-- The letters and hyphens of a special word boundary, with the blanks that the flags allow. -/
def readBoundaryName (f : Flags) : (fuel : Nat) → Text → Text × Text
  | 0, t => ([], t)
  | fuel + 1, t => match t with
    | c :: rest =>
      if c.isAlpha || c = '-' then
        let (name, rest) := readBoundaryName f fuel (f.next rest)
        (c :: name, rest)
      else ([], t)
    | [] => ([], [])

/-- A word boundary, of a special kind if that is named in braces. Braces whose content does not
start like a name are a repetition count. -/
def readBoundary (f : Flags) (t : Text) : Option (Escape × Text) :=
  let plain := Escape.assertion (.wordBoundary (!f.unicode))
  match t with
  | '\x7b' :: rest =>
    match f.next rest with
    | [] => none
    | c :: _ =>
      if c.isAlpha || c = '-' then
        let (name, rest) := readBoundaryName f rest.length (f.next rest)
        match rest with
        | '\x7d' :: rest =>
          match String.ofList name with
          | "start" => some (.assertion (.wordStart (!f.unicode)), rest)
          | "end" => some (.assertion (.wordEnd (!f.unicode)), rest)
          | "start-half" => some (.assertion (.afterNoWord (!f.unicode)), rest)
          | "end-half" => some (.assertion (.beforeNoWord (!f.unicode)), rest)
          | _ => none
        | _ => none
      else some (plain, t)
  | _ => some (plain, t)

def readEscape (f : Flags) (t : Text) : Option (Escape × Text) :=
  match t with
  | [] => none
  | c :: rest =>
    if c.isDigit then none
    else match c with
      | 'x' => readHex f 2 rest
      | 'u' => readHex f 4 rest
      | 'U' => readHex f 8 rest
      | 'p' | 'P' =>
        if f.unicode then do
          let (s, rest) ← readProperty f rest
          return (.set (CharSet.negateIf (c == 'P') (f.fold s)), rest)
        else none
      | 'd' | 's' | 'w' | 'D' | 'S' | 'W' => (f.letterClass? c).map fun s => (.set s, rest)
      | 'a' => some (.literal '\x07' false, rest)
      | 'f' => some (.literal '\x0c' false, rest)
      | 't' => some (.literal '\t' false, rest)
      | 'n' => some (.literal '\n' false, rest)
      | 'r' => some (.literal '\r' false, rest)
      | 'v' => some (.literal '\x0b' false, rest)
      | 'A' => some (.assertion .textStart, rest)
      | 'z' => some (.assertion .textEnd, rest)
      | 'b' => readBoundary f rest
      | 'B' => some (.assertion (.noWordBoundary (!f.unicode)), rest)
      | '<' => some (.assertion (.wordStart (!f.unicode)), rest)
      | '>' => some (.assertion (.wordEnd (!f.unicode)), rest)
      | _ => if c.toNat < 0x80 && !c.isAlpha then some (.literal c false, rest) else none

/-! ## Bracketed classes -/

inductive SetOp
  | inter
  | diff
  | symmDiff

def SetOp.apply (f : Flags) (op : SetOp) (s t : CharSet) : CharSet :=
  match op with
  | .inter => .inter (f.fold s) (f.fold t)
  | .diff => CharSet.diff (f.fold s) (f.fold t)
  | .symmDiff => CharSet.symmDiff (f.fold s) (f.fold t)

abbrev Pending := Option (SetOp × CharSet)

def Pending.with (f : Flags) (p : Pending) (s : CharSet) : CharSet :=
  match p with
  | some (op, left) => op.apply f left s
  | none => s

/-- A named class after its opening bracket, as in `[:alpha:]`, if there is one. It has no set if the
flags refuse it. -/
def readAsciiClass? (f : Flags) (t : Text) : Option (Option CharSet × Text) :=
  match t with
  | ':' :: t =>
    let (negated, t) := match t with
      | '^' :: t => (true, t)
      | t => (false, t)
    match cutAt? ":" t with
    | some (name, ']' :: rest) => do
      let s ← CharSet.ofAsciiName? name
      return (f.finish? negated s, rest)
    | _ => none
  | _ => none

def readClassItem (f : Flags) (t : Text) : Option (Escape × Text) :=
  match t with
  | '\\' :: t => readEscape f t
  | c :: t => some (.literal c false, t)
  | [] => none

def Flags.allows (f : Flags) (c : Char) (byte : Bool) : Bool :=
  f.unicode || (c.toNat < 0x80 && !(byte && 0x80 ≤ c.toNat))

def readClassRange (f : Flags) (t : Text) : Option (CharSet × Text) := do
  let (first, rest) ← readClassItem f t
  let rest := f.next rest
  let alone : Option (CharSet × Text) := match first with
    | .literal c byte => if f.allows c byte then some (CharSet.single c, rest) else none
    | .set s => some (s, rest)
    | .assertion _ => none
  match rest with
  | [] => none
  | '-' :: after =>
    if f.glance after = some ']' || f.glance after = some '-' then alone
    else do
      let (last, rest) ← readClassItem f (f.next after)
      match first, last with
      | .literal lo b, .literal hi b' =>
        if lo ≤ hi && f.allows lo b && f.allows hi b' then some (.range lo hi, rest) else none
      | _, _ => none
  | _ => alone

/-- The hyphens at the start of a class, which stand for themselves. -/
def readLeadingHyphens (f : Flags) : (fuel : Nat) → CharSet → Text → CharSet × Text
  | 0, s, t => (s, t)
  | fuel + 1, s, t => match t with
    | '-' :: rest => readLeadingHyphens f fuel (.union s (CharSet.single '-')) (f.next rest)
    | _ => (s, t)

mutual

def readBracket (f : Flags) : (fuel : Nat) → Text → Option (CharSet × Text)
  | 0, _ => none
  | fuel + 1, t => do
    let t := f.next t
    let (negated, t) := match t with
      | '^' :: rest => (true, f.next rest)
      | t => (false, t)
    let (start, rest) := readLeadingHyphens f t.length .nothing t
    let (start, rest) := match t, rest with
      | ']' :: _, ']' :: rest => (CharSet.single ']', f.next rest)
      | _, rest => (start, rest)
    let (s, rest) ← readClassBody f fuel start none rest
    let s ← f.finish? negated s
    return (s, rest)

/-- The parts of a class up to its closing bracket, where `s` is the part being read. -/
def readClassBody (f : Flags) :
    (fuel : Nat) → (s : CharSet) → (p : Pending) → Text → Option (CharSet × Text)
  | 0, _, _, _ => none
  | fuel + 1, s, p, t =>
    match f.next t with
    | [] => none
    | ']' :: rest => some (p.with f s, rest)
    | '[' :: rest =>
      match readAsciiClass? f rest with
      | some (inner, rest) => do
        let inner ← inner
        readClassBody f fuel (.union s inner) p rest
      | none => do
        let (inner, rest) ← readBracket f fuel rest
        readClassBody f fuel (.union s inner) p rest
    | '&' :: '&' :: rest => readClassBody f fuel .nothing (some (.inter, p.with f s)) rest
    | '-' :: '-' :: rest => readClassBody f fuel .nothing (some (.diff, p.with f s)) rest
    | '~' :: '~' :: rest => readClassBody f fuel .nothing (some (.symmDiff, p.with f s)) rest
    | t => do
      let (item, rest) ← readClassRange f t
      readClassBody f fuel (.union s item) p rest

end

/-! ## Groups and flags -/

inductive GroupStart
  /-- Flags for the rest of the enclosing group. -/
  | directive (f : Flags)
  | group (f : Flags) (name : Option Text)

def Flags.set? (f : Flags) (c : Char) (on : Bool) : Option Flags :=
  match c with
  | 'i' => some { f with caseless := on }
  | 'm' => some { f with perLine := on }
  | 's' => some { f with dotAll := on }
  | 'R' => some { f with returns := on }
  | 'x' => some { f with spaced := on }
  | 'u' => some { f with unicode := on }
  | 'U' => some f
  | _ => none

/-- The flags up to a colon or a closing parenthesis. `seen` holds the letters so far, which may
not repeat, and `on` is false after the one hyphen, which may not come last. -/
def readFlags (f : Flags) (seen : Text) (on : Bool) : Text → Option (Flags × Text × Text)
  | [] => none
  | '-' :: t =>
    match t with
    | ':' :: _ | ')' :: _ => none
    | _ => if on then readFlags f seen false t else none
  | c :: t =>
    if c = ':' || c = ')' then some (f, seen, c :: t)
    else if seen.contains c then none
    else do
      let f ← f.set? c on
      readFlags f (c :: seen) on t

def readGroupName (first : Bool) : Text → Option (Text × Text)
  | [] => none
  | '>' :: t => if first then none else some ([], t)
  | c :: t =>
    let ok := if first then c = '_' || Text.isAlphabetic c
      else c = '_' || c = '.' || c = '[' || c = ']' || Text.isAlphabetic c ||
        (Text.category c).group = 'N'
    if ok then (readGroupName false t).map fun (name, rest) => (c :: name, rest) else none

def readGroupStart (f : Flags) (t : Text) : Option (GroupStart × Text) :=
  let named (t : Text) : Option (GroupStart × Text) :=
    (readGroupName true t).map fun (name, rest) => (.group f (some name), rest)
  match f.next t with
  | '?' :: '=' :: _ | '?' :: '!' :: _ | '?' :: '<' :: '=' :: _ | '?' :: '<' :: '!' :: _ => none
  | '?' :: 'P' :: '<' :: rest => named rest
  | '?' :: '<' :: rest => named rest
  | '?' :: rest => do
    let (g, seen, rest) ← readFlags f [] true rest
    match rest with
    | ':' :: rest => some (.group g none, rest)
    | _ :: rest => if seen.isEmpty then none else some (.directive g, rest)
    | [] => none
  | t => some (.group f none, t)

/-! ## The reader -/

/-- One item of a sequence: an expression, or a directive, which cannot be repeated. -/
inductive Item
  | expr (r : Regex)
  | directive

/-- The part of a group that is read, with the last alternative and the last item in front. -/
structure Level where
  flags : Flags
  branches : List Regex := []
  items : List Item := []

def sequence (items : List Item) : Regex :=
  items.foldl (fun r item => match item with
    | .expr s => .seq s r
    | .directive => r) .empty

namespace Level

def push (l : Level) (r : Regex) : Level := { l with items := .expr r :: l.items }

def branch (l : Level) : Level :=
  { l with branches := sequence l.items :: l.branches, items := [] }

def expr (l : Level) : Regex := alts (sequence l.items :: l.branches).reverse

def repeat? (l : Level) (wrap : Regex → Regex) : Option Level :=
  match l.items with
  | .expr r :: items => some { l with items := .expr (wrap r) :: items }
  | _ => none

end Level

/-- The state of the reader: the level being read, the levels around it and the names of groups. -/
structure Reader where
  level : Level
  outer : List Level := []
  names : List Text := []

def Flags.literal? (f : Flags) (c : Char) (byte : Bool) : Option Regex :=
  if !f.unicode && byte && 0x80 ≤ c.toNat then none
  else some (.char (if f.unicode || c.toNat < 0x80 then f.fold (.single c) else .single c))

def readRepeat (f : Flags) (t : Text) : Option ((Nat × Option Nat) × Text) :=
  match f.next t with
  | [] => none
  | t => do
    let (least, rest) ← readCount f t
    let (bounds, rest) ← match rest with
      | ',' :: rest => match f.next rest with
        | [] => none
        | '\x7d' :: rest => least.map fun n => ((n, none), '\x7d' :: rest)
        | rest => do
          let n ← least
          let (most, rest) ← readCount f rest
          let m ← most
          if n ≤ m then some ((n, some m), rest) else none
      | rest => least.map fun n => ((n, some n), rest)
    match rest with
    | '\x7d' :: rest => some (bounds, f.next rest)
    | _ => none

/-- The text after a question mark, which only sets the greed of the repetition before it. -/
def dropLazy : Text → Text
  | '?' :: t => t
  | t => t

def read : (fuel : Nat) → Reader → Text → Option Regex
  | 0, _, _ => none
  | fuel + 1, st, t =>
    let level := st.level
    let f := level.flags
    match f.next t with
    | [] => if st.outer.isEmpty then some level.expr else none
    | '(' :: rest => do
      let (start, rest) ← readGroupStart f rest
      match start with
      | .directive g =>
        let level := { level with flags := g, items := .directive :: level.items }
        read fuel { st with level } rest
      | .group g name =>
        let inner : Reader :=
          { level := { flags := g }, outer := level :: st.outer, names := name.toList ++ st.names }
        if name.any st.names.contains then none else read fuel inner rest
    | ')' :: rest =>
      match st.outer with
      | outer :: around => read fuel { st with level := outer.push level.expr, outer := around } rest
      | [] => none
    | '|' :: rest => read fuel { st with level := level.branch } rest
    | '[' :: rest => do
      let (s, rest) ← readBracket f (2 * rest.length + 2) rest
      read fuel { st with level := level.push (.char s) } rest
    | '?' :: rest => do
      let level ← level.repeat? opt
      read fuel { st with level } (dropLazy rest)
    | '*' :: rest => do
      let level ← level.repeat? star
      read fuel { st with level } (dropLazy rest)
    | '+' :: rest => do
      let level ← level.repeat? plus
      read fuel { st with level } (dropLazy rest)
    | '\x7b' :: rest => do
      let ((least, most), rest) ← readRepeat f rest
      let level ← level.repeat? fun r => counted r least most
      read fuel { st with level } (dropLazy rest)
    | '.' :: rest =>
      if f.unicode then
        let s := if f.dotAll then CharSet.all
          else if f.returns then CharSet.compl (CharSet.ofText "\r\n") else CharSet.notLineFeed
        read fuel { st with level := level.push (.char s) } rest
      else none
    | '^' :: rest =>
      let a := if f.perLine then (if f.returns then .returnLineStart else .lineStart) else .textStart
      read fuel { st with level := level.push (.place a) } rest
    | '$' :: rest =>
      let a := if f.perLine then (if f.returns then .returnLineEnd else .lineEnd) else .textEnd
      read fuel { st with level := level.push (.place a) } rest
    | '\\' :: rest => do
      let (e, rest) ← readEscape f rest
      let r ← match e with
        | .literal c byte => f.literal? c byte
        | .set s => some (.char s)
        | .assertion a => some (.place a)
      read fuel { st with level := level.push r } rest
    | c :: rest => do
      let r ← f.literal? c false
      read fuel { st with level := level.push r } rest

def ofText? (t : Text) : Option Regex := read (t.length + 1) { level := { flags := {} } } t

end SuiteAudit.Regex
