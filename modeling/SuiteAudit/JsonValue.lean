import SuiteAudit.Text.Basic

/-!
# JSON documents

Values of the documents that the program writes, and their two layouts: on one line without blanks,
and with one element a line and two blanks for each level.
-/

namespace SuiteAudit

inductive JsonValue
  | null
  | number (n : Nat)
  | hundredths (n : Nat)
  | text (t : Text)
  | array (vs : List JsonValue)
  | object (fs : List (Text × JsonValue))

namespace JsonValue

def hexDigit (n : Nat) : Char := (Nat.toDigits 16 n).headD '0'

def escape (c : Char) : Text :=
  if c = '"' then ['\\', '"']
  else if c = '\\' then ['\\', '\\']
  else if c = '\n' then ['\\', 'n']
  else if c = '\r' then ['\\', 'r']
  else if c = '\t' then ['\\', 't']
  else if c = '\x08' then ['\\', 'b']
  else if c = '\x0c' then ['\\', 'f']
  else if c.toNat < 0x20 then
    ['\\', 'u', '0', '0', hexDigit (c.toNat / 16), hexDigit (c.toNat % 16)]
  else [c]

def quoted (t : Text) : Text := '"' :: (t.flatMap escape ++ ['"'])

/-- A number of hundredths with at least one and at most two places. -/
def decimal (n : Nat) : Text :=
  let places := n % 100
  Text.ofNat (n / 100) ++ '.' :: Text.ofNat (places / 10) ++
    (if places % 10 = 0 then [] else Text.ofNat (places % 10))

/-! ## On one line -/

mutual

def compact : JsonValue → Text
  | null => "null"
  | number n => Text.ofNat n
  | hundredths n => decimal n
  | text t => quoted t
  | array vs => '[' :: (Text.join [','] (compactAll vs) ++ [']'])
  | object fs => '\x7b' :: (Text.join [','] (compactFields fs) ++ ['\x7d'])

def compactAll : List JsonValue → List Text
  | [] => []
  | v :: vs => v.compact :: compactAll vs

def compactFields : List (Text × JsonValue) → List Text
  | [] => []
  | f :: fs => compactField f :: compactFields fs

def compactField : Text × JsonValue → Text
  | (name, v) => quoted name ++ ':' :: v.compact

end

/-! ## One element a line -/

def newLine (level : Nat) : Text := '\n' :: List.replicate (2 * level) ' '

def layOut (left right : Char) (level : Nat) (elements : List Text) : Text :=
  if elements.isEmpty then [left, right]
  else left :: newLine (level + 1) ++ Text.join (',' :: newLine (level + 1)) elements ++
    newLine level ++ [right]

mutual

/-- The value with one element a line, where its own line stands on the level. -/
def indented (level : Nat) : JsonValue → Text
  | null => "null"
  | number n => Text.ofNat n
  | hundredths n => decimal n
  | text t => quoted t
  | array vs => layOut '[' ']' level (indentedAll (level + 1) vs)
  | object fs => layOut '\x7b' '\x7d' level (indentedFields (level + 1) fs)

def indentedAll (level : Nat) : List JsonValue → List Text
  | [] => []
  | v :: vs => v.indented level :: indentedAll level vs

def indentedFields (level : Nat) : List (Text × JsonValue) → List Text
  | [] => []
  | f :: fs => indentedField level f :: indentedFields level fs

def indentedField (level : Nat) : Text × JsonValue → Text
  | (name, v) => quoted name ++ ':' :: ' ' :: v.indented level

end

def pretty (v : JsonValue) : Text := v.indented 0

/-! ## Building documents -/

def record (fs : List (String × JsonValue)) : JsonValue :=
  object (fs.map fun (name, v) => (name.toList, v))

def texts (ts : List Text) : JsonValue := array (ts.map text)

def orNull {α : Type} (f : α → JsonValue) : Option α → JsonValue
  | some a => f a
  | none => null

end JsonValue

end SuiteAudit
