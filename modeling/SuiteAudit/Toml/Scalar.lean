import SuiteAudit.Toml.Basic

/-!
# Strings, numbers, dates and times of TOML

Each reader takes the text at which a scalar starts and gives its value with what follows it.
-/

namespace SuiteAudit.Toml

def isSpace (c : Char) : Bool := c = ' ' || c = '\t'

def isPlain (c : Char) : Bool := c = '\t' || (0x20 ≤ c.toNat && c.toNat != 0x7F)

/-- The line ending that the text starts with, by its length. -/
def lineEnd : Text → Nat
  | '\n' :: _ => 1
  | '\r' :: '\n' :: _ => 2
  | _ => 0

/-! ## Strings -/

def hexDigit? (c : Char) : Option Nat :=
  if Text.isDecimal c then some (c.toNat - '0'.toNat)
  else if 'a' ≤ c && c ≤ 'f' then some (c.toNat - 'a'.toNat + 10)
  else if 'A' ≤ c && c ≤ 'F' then some (c.toNat - 'A'.toNat + 10)
  else none

def hexValue? (t : Text) : Option Nat :=
  t.foldlM (fun n c => (hexDigit? c).map (16 * n + ·)) 0

def codePoint? (count : Nat) (t : Text) : Option Char :=
  if t.length < count then none
  else match hexValue? (t.take count) with
    | some n => if n.isValidChar then some (Char.ofNat n) else none
    | none => none

/-- The character that an escape stands for, and the length of what follows the backslash. -/
def escape? : Text → Option (Char × Nat)
  | 'b' :: _ => some ('\x08', 1)
  | 't' :: _ => some ('\t', 1)
  | 'n' :: _ => some ('\n', 1)
  | 'f' :: _ => some ('\x0c', 1)
  | 'r' :: _ => some ('\r', 1)
  | 'e' :: _ => some ('\x1b', 1)
  | '"' :: _ => some ('"', 1)
  | '\\' :: _ => some ('\\', 1)
  | 'x' :: t => (codePoint? 2 t).map (·, 3)
  | 'u' :: t => (codePoint? 4 t).map (·, 5)
  | 'U' :: t => (codePoint? 8 t).map (·, 9)
  | _ => none

def push (c : Char) : Text × Text → Text × Text
  | (content, rest) => (c :: content, rest)

/-- A string up to its closing quote; the first `skip` characters belong to an escape. -/
def basicFrom : (skip : Nat) → Text → Option (Text × Text)
  | _, [] => none
  | skip + 1, _ :: t => basicFrom skip t
  | 0, '"' :: t => some ([], t)
  | 0, '\\' :: t => match escape? t with
    | some (c, n) => (basicFrom n t).map (push c)
    | none => none
  | 0, c :: t => if isPlain c then (basicFrom 0 t).map (push c) else none

def literalBody : Text → Option (Text × Text)
  | [] => none
  | '\'' :: t => some ([], t)
  | c :: t => if isPlain c then (literalBody t).map (push c) else none

/-- What a run of quotes at the end of a string of several lines leaves to the string: at most two
quotes before the closing three. `t` follows the first three quotes. -/
def closeLong (quote : Char) (t : Text) : Text × Text :=
  let extra := ((t.take 2).takeWhile (· = quote)).length
  (List.replicate extra quote, t.drop extra)

def dropBlankLines : Text → Text
  | [] => []
  | '\r' :: '\n' :: t => dropBlankLines t
  | c :: t => if isSpace c || c = '\n' then dropBlankLines t else c :: t

/-- The length of the white space after a backslash at the end of a line, line endings included. -/
def continuation? (t : Text) : Option Nat :=
  if lineEnd (t.dropWhile isSpace) = 0 then none
  else some (t.length - (dropBlankLines t).length)

def longBasicFrom : (skip : Nat) → Text → Option (Text × Text)
  | _, [] => none
  | skip + 1, _ :: t => longBasicFrom skip t
  | 0, '"' :: '"' :: '"' :: t => some (closeLong '"' t)
  | 0, '\r' :: '\n' :: t => (longBasicFrom 0 t).map fun s => push '\r' (push '\n' s)
  | 0, '\\' :: t => match continuation? t with
    | some n => longBasicFrom n t
    | none => match escape? t with
      | some (c, n) => (longBasicFrom n t).map (push c)
      | none => none
  | 0, c :: t => if isPlain c || c = '\n' then (longBasicFrom 0 t).map (push c) else none

def longLiteralBody : Text → Option (Text × Text)
  | [] => none
  | '\'' :: '\'' :: '\'' :: t => some (closeLong '\'' t)
  | '\r' :: '\n' :: t => (longLiteralBody t).map fun s => push '\r' (push '\n' s)
  | c :: t => if isPlain c || c = '\n' then (longLiteralBody t).map (push c) else none

def shortString? : Text → Option (Text × Text)
  | '"' :: t => basicFrom 0 t
  | '\'' :: t => literalBody t
  | _ => none

/-- A string in any kind of quotes. A line ending right after three opening quotes is not part of
it. -/
def string? : Text → Option (Text × Text)
  | '"' :: '"' :: '"' :: t => longBasicFrom 0 (t.drop (lineEnd t))
  | '\'' :: '\'' :: '\'' :: t => longLiteralBody (t.drop (lineEnd t))
  | t => shortString? t

/-! ## Numbers -/

def digits? (isDigit : Char → Bool) (t : Text) : Option Text :=
  let groups := Text.split '_' t
  if groups.all fun g => !g.isEmpty && g.all isDigit then some groups.flatten else none

def cutSign : Text → Bool × Text
  | '-' :: t => (true, t)
  | '+' :: t => (false, t)
  | t => (false, t)

/-- The digits of a decimal number, which starts with zero only if it is zero. -/
def decimalDigits? (t : Text) : Option Text :=
  match digits? Text.isDecimal t with
  | some ds => if ds.head? = some '0' && ds.length != 1 then none else some ds
  | none => none

def inBase? (base : Nat) (t : Text) : Option Int :=
  match digits? (fun c => (hexDigit? c).any (· < base)) t with
  | some ds => (ds.foldlM (fun n c => (hexDigit? c).map (base * n + ·)) 0).map Int.ofNat
  | none => none

def integer? : Text → Option Int
  | '0' :: 'x' :: t => inBase? 16 t
  | '0' :: 'o' :: t => inBase? 8 t
  | '0' :: 'b' :: t => inBase? 2 t
  | t =>
    let (negative, t) := cutSign t
    (decimalDigits? t).map fun ds =>
      let n : Int := Text.digitsValue ds
      if negative then -n else n

def signed (negative : Bool) (x : Float) : Value := .decimal (if negative then -x else x)

def scientific (negative : Bool) (digits : Text) (exponent : Int) : Value :=
  let m := Text.digitsValue digits
  let magnitude : Int := (Text.ofNat m).length + exponent
  if m = 0 || magnitude < -400 then signed negative 0.0
  else if magnitude > 400 then .other
  else
    let x := Float.ofScientific m (exponent < 0) exponent.natAbs
    if x.isInf then .other else signed negative x

def exponent? (t : Text) : Option Int :=
  let (negative, t) := cutSign t
  (digits? Text.isDecimal t).map fun ds =>
    let n : Int := Text.digitsValue ds
    if negative then -n else n

def fraction? (negative : Bool) (t : Text) : Option Value := do
  let (mantissa, exponent) ← match t.span fun c => !(c = 'e' || c = 'E') with
    | (m, _ :: e) => (exponent? e).map fun n => (m, some n)
    | (m, []) => some (m, none)
  match Text.cut? '.' mantissa with
  | some (whole, part) =>
    let whole ← decimalDigits? whole
    let part ← digits? Text.isDecimal part
    some (scientific negative (whole ++ part) (exponent.getD 0 - part.length))
  | none =>
    let whole ← decimalDigits? mantissa
    some (scientific negative whole (← exponent))

def decimal? (t : Text) : Option Value :=
  let (negative, t) := cutSign t
  if t = "inf".toList then some (signed negative (1.0 / 0.0))
  else if t = "nan".toList then some (signed negative (0.0 / 0.0))
  else fraction? negative t

/-! ## Dates and times

A part of a date or a time gives what follows it. -/

def number? (count : Nat) (t : Text) : Option (Nat × Text) :=
  let ds := t.take count
  if ds.length = count && ds.all Text.isDecimal then some (Text.digitsValue ds, t.drop count)
  else none

def daysOf (year month : Nat) : Nat :=
  match month with
  | 2 => if year % 4 = 0 && (year % 100 != 0 || year % 400 = 0) then 29 else 28
  | 4 | 6 | 9 | 11 => 30
  | _ => 31

def date? (t : Text) : Option Text := do
  let (year, t) ← number? 4 t
  let (month, t) ← number? 2 (← Text.after? ['-'] t)
  let (day, t) ← number? 2 (← Text.after? ['-'] t)
  if 1 ≤ month && month ≤ 12 && 1 ≤ day && day ≤ daysOf year month then some t else none

def pair? (last : Nat) (t : Text) : Option Text := do
  let (n, t) ← number? 2 t
  if n ≤ last then some t else none

def clock? (t : Text) : Option Text := do pair? 59 (← Text.after? [':'] (← pair? 23 t))

def time? (t : Text) : Option Text := do
  match ← clock? t with
  | ':' :: t => match ← pair? 60 t with
    | '.' :: t => if t.head?.any Text.isDecimal then some (t.dropWhile Text.isDecimal) else none
    | t => some t
  | t => some t

def offset? : Text → Option Text
  | 'Z' :: t | 'z' :: t => some t
  | '+' :: t | '-' :: t => clock? t
  | t => some t

def isMoment (t : Text) : Bool :=
  let rest := match date? t with
    | some [] => some []
    | some (c :: t) =>
      if c = 'T' || c = 't' || c = ' ' then (time? t).bind offset? else none
    | none => time? t
  rest.any List.isEmpty

/-! ## Scalars without quotes -/

def isTokenChar (c : Char) : Bool :=
  Text.isDecimal c || ('a' ≤ c && c ≤ 'z') || ('A' ≤ c && c ≤ 'Z') || c = '_' || c = '+' ||
    c = '-' || c = '.' || c = ':'

/-- Cuts a scalar without quotes. A blank may stand between a date and a time. -/
def spanToken (t : Text) : Text × Text :=
  match t.span isTokenChar with
  | (token, ' ' :: rest) =>
    if (date? token).any List.isEmpty && rest.head?.any isTokenChar then
      let (time, rest) := rest.span isTokenChar
      (token ++ ' ' :: time, rest)
    else (token, ' ' :: rest)
  | cut => cut

def token? (t : Text) : Option Value :=
  if t = "true".toList then some (.boolean true)
  else if t = "false".toList then some (.boolean false)
  else if isMoment t then some .other
  else match integer? t with
    | some n => some (.integer n)
    | none => decimal? t

end SuiteAudit.Toml
