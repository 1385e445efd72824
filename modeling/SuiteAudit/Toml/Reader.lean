import SuiteAudit.Toml.Scalar

/-!
# Reading TOML documents

`document?` gives the entries of the root table, or nothing if the text is no document.
-/

namespace SuiteAudit.Toml

/-! ## Blanks, comments and line endings -/

/-- The text after blanks, comments and line endings. A character that may not stand in a comment
ends it and is left to the caller. -/
def skipLines (inComment : Bool) : Text → Text
  | [] => []
  | '\n' :: t => skipLines false t
  | '\r' :: '\n' :: t => skipLines false t
  | c :: t =>
    if inComment then (if isPlain c then skipLines true t else c :: t)
    else if isSpace c then skipLines false t
    else if c = '#' then skipLines true t
    else c :: t

/-- The text after the rest of a line that holds nothing but blanks and a comment. -/
def endLine? (t : Text) : Option Text :=
  let rest := match t.dropWhile isSpace with
    | '#' :: t => t.dropWhile isPlain
    | t => t
  if rest.isEmpty then some []
  else if lineEnd rest = 0 then none
  else some (rest.drop (lineEnd rest))

/-! ## Keys -/

def isBareChar (c : Char) : Bool :=
  Text.isDecimal c || ('a' ≤ c && c ≤ 'z') || ('A' ≤ c && c ≤ 'Z') || c = '_' || c = '-'

def simpleKey? (t : Text) : Option (Text × Text) :=
  match t.span isBareChar with
  | ([], _) => shortString? t
  | (key, rest) => some (key, rest)

/-- A key with the parts between its dots, and blanks around them. -/
def key? : (fuel : Nat) → Text → Option (List Text × Text)
  | 0, _ => none
  | fuel + 1, t => do
    let (part, rest) ← simpleKey? (t.dropWhile isSpace)
    match rest.dropWhile isSpace with
    | '.' :: rest =>
      let (parts, rest) ← key? fuel rest
      some (part :: parts, rest)
    | rest => some ([part], rest)

/-! ## Values -/

mutual

def value? : (fuel : Nat) → Text → Option (Value × Text)
  | 0, _ => none
  | _, [] => none
  | fuel + 1, '[' :: t => (elements? fuel (skipLines false t)).map fun (vs, t) => (.array vs, t)
  | fuel + 1, '\x7b' :: t =>
    (fields? fuel [] (skipLines false t)).map fun (es, t) => (.table .braced es, t)
  | _ + 1, c :: t =>
    if c = '"' || c = '\'' then (string? (c :: t)).map fun (s, t) => (.text s, t)
    else
      let (token, rest) := spanToken (c :: t)
      (token? token).map fun v => (v, rest)

def elements? : (fuel : Nat) → Text → Option (List Value × Text)
  | 0, _ => none
  | _, ']' :: t => some ([], t)
  | fuel + 1, t => do
    let (v, rest) ← value? fuel t
    match skipLines false rest with
    | ',' :: rest =>
      let (vs, rest) ← elements? fuel (skipLines false rest)
      some (v :: vs, rest)
    | ']' :: rest => some ([v], rest)
    | _ => none

/-- The entries of a table in braces up to the closing brace, after those in `es`. -/
def fields? : (fuel : Nat) → (es : Entries) → Text → Option (Entries × Text)
  | 0, _, _ => none
  | _, es, '\x7d' :: t => some (es, t)
  | fuel + 1, es, t => do
    let (key, rest) ← key? fuel t
    let rest ← Text.after? ['='] rest
    let (v, rest) ← value? fuel (rest.dropWhile isSpace)
    let es ← es.set? key v
    match skipLines false rest with
    | ',' :: rest => fields? fuel es (skipLines false rest)
    | '\x7d' :: rest => some (es, rest)
    | _ => none

end

/-! ## Documents -/

/-- What has been read of a document: the root table and the path of the table that is open. -/
structure Draft where
  root : Entries := []
  path : List Text := []

namespace Draft

def set? (d : Draft) (key : List Text) (v : Value) : Option Draft := do
  let root ← Entries.within .implied (fun _ es => es.set? key v) d.path .headed d.root
  some { d with root }

def openTable? (d : Draft) (path : List Text) : Option Draft :=
  (d.root.openTable? path).map fun root => { root, path }

def pushTable? (d : Draft) (path : List Text) : Option Draft :=
  (d.root.pushTable? path).map fun root => { root, path }

def expression? (d : Draft) (fuel : Nat) (t : Text) : Option (Draft × Text) :=
  match t with
  | '[' :: '[' :: t => do
    let (path, rest) ← key? fuel t
    let rest ← Text.after? [']', ']'] rest
    some (← d.pushTable? path, rest)
  | '[' :: t => do
    let (path, rest) ← key? fuel t
    let rest ← Text.after? [']'] rest
    some (← d.openTable? path, rest)
  | t => do
    let (key, rest) ← key? fuel t
    let rest ← Text.after? ['='] rest
    let (v, rest) ← value? fuel (rest.dropWhile isSpace)
    some (← d.set? key v, rest)

def read? : (fuel : Nat) → Draft → Text → Option Draft
  | 0, _, _ => none
  | fuel + 1, d, t =>
    match skipLines false t with
    | [] => some d
    | t => do
      let (d, rest) ← d.expression? (t.length + 1) t
      read? fuel d (← endLine? rest)

end Draft

def document? (t : Text) : Option Entries :=
  (Draft.read? (t.length + 1) {} (Text.dropMark t)).map Draft.root

end SuiteAudit.Toml
