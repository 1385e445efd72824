import SuiteAudit.Regex.Basic
import SuiteAudit.Text.Bytes

/-!
# Globs

Globs on paths, read as regular expressions over whole paths. In a `PathGlob` every wildcard also
matches slashes; in an `IgnoreGlob`, which ignore files use, only `**` does, and a wildcard stands for
bytes.
-/

namespace SuiteAudit

def Regex.only (c : Char) : Regex := .char (CharSet.single c)

def Regex.anything : Regex := .star (.char CharSet.all)

/-! ## Globs whose wildcards match slashes -/

namespace PathGlob

def members : Text → CharSet
  | a :: '-' :: b :: t => .union (.range a b) (members t)
  | a :: t => .union (.single a) (members t)
  | [] => .nothing

/-- The members of a bracket up to the first closing one after at least one character. -/
def cutMembers? : Text → Option Text
  | [] => none
  | c :: t => (Text.cut? ']' t).map fun (inner, _) => c :: inner

/-- The set in brackets and its length, both brackets excluded from the text and the closing one
included in the length. -/
def bracket? : Text → Option (CharSet × Nat)
  | '!' :: t => (cutMembers? t).map fun m => (.compl (members m), m.length + 2)
  | t => (cutMembers? t).map fun m => (members m, m.length + 1)

/-- The expression of the rest of a glob, where `fresh` says that a component of the path starts
here and the first `skip` characters are read already. Two asterisks have to be a component of their
own, and there are never three. -/
def readFrom : (skip : Nat) → (fresh : Bool) → Text → Option Regex
  | _, _, [] => some .empty
  | skip + 1, _, c :: t => readFrom skip (c = '/') t
  | 0, fresh, c :: t =>
    if c = '?' then (readFrom 0 false t).map (.seq (.char CharSet.all))
    else if c = '*' then
      match (t.takeWhile (· = '*')).length with
      | 0 => (readFrom 0 false t).map (.seq .anything)
      | 1 =>
        if !fresh then none
        else match t.drop 1 with
          | [] | ['/'] => some .anything
          | '/' :: _ => (readFrom 2 false t).map (.seq (.opt (.seq .anything (.only '/'))))
          | _ => none
      | _ => none
    else if c = '[' then
      match bracket? t with
      | some (s, n) => (readFrom n false t).map (.seq (.char s))
      | none => none
    else (readFrom 0 (c = '/') t).map (.seq (.only c))

def ofText? (t : Text) : Option Regex := (readFrom 0 true t).map Regex.whole

end PathGlob

/-! ## Globs of ignore files -/

namespace IgnoreGlob

def inName : Regex := .char (.compl (.single '/'))

inductive Piece
  | one (r : Regex)
  /-- A group without alternatives. -/
  | blank
  /-- Two asterisks at the start of a glob: any directories, or none. -/
  | leading
  /-- Two asterisks at the end of a glob: anything below a directory. -/
  | trailing

def Piece.regex : Piece → Regex
  | one r => r
  | blank => .empty
  | leading => .alt (.opt (.only '/')) (.seq .anything (.only '/'))
  | trailing => .seq (.only '/') .anything

def Piece.isBlank : Piece → Bool
  | blank => true
  | _ => false

def Piece.only (c : Char) : Piece := .one (.literal (Text.charBytes c))

/-- Two asterisks between slashes: any directories, or none. -/
def between : Piece :=
  .one (.alt (.only '/') (.seq (.only '/') (.seq .anything (.only '/'))))

/-- A group of alternatives that is not closed yet: the parts before it and its finished
alternatives, each from the last to the first. -/
structure Group where
  before : List Piece
  finished : List (List Piece)

/-- What is read of a glob: the open groups and the parts of the current alternative, from the last
to the first, and whether a bracket was found that nothing closes. -/
structure Draft where
  groups : List Group := []
  pieces : List Piece := []
  unclosed : Bool := false

namespace Draft

def push (d : Draft) (p : Piece) : Draft := { d with pieces := p :: d.pieces }

/-- The draft with two asterisks in place of the slash before them, unless they follow others. -/
def join (d : Draft) (p : Piece) : Draft :=
  match d.pieces with
  | .leading :: _ | .trailing :: _ => d
  | _ :: ps => { d with pieces := p :: ps }
  | [] => d.push p

/-- The draft after an asterisk that `before` precedes, and how many characters of the text after
the asterisk belong to it. -/
def asterisk (d : Draft) (before : Option Char) (t : Text) : Draft × Nat :=
  let many := Piece.one (.star inName)
  match t with
  | '*' :: rest =>
    let plain := ((d.push many).push many, 1)
    let inGroup := !d.groups.isEmpty
    if d.pieces.isEmpty then
      match rest with
      | [] => (d.push .leading, 1)
      | c :: _ => if c = '/' then (d.push .leading, 2) else plain
    else if before != some '/' && !(inGroup && (before = some ',' || before = some '\x7b')) then
      plain
    else match rest with
      | [] => (d.join .trailing, 1)
      | c :: _ =>
        if inGroup && (c = ',' || c = '\x7d') then (d.join .trailing, 1)
        else if c = '/' then (d.join between, 2)
        else plain
  | _ => (d.push many, 0)

def sequence (ps : List Piece) : Regex := Regex.seqs (ps.reverse.map Piece.regex)

/-- The draft after the end of a group. Empty alternatives do not count. -/
def close? (d : Draft) : Option Draft :=
  match d.groups with
  | [] => none
  | g :: groups =>
    let alternatives := (d.pieces :: g.finished).reverse.filter fun ps => !ps.all Piece.isBlank
    let piece := if alternatives.isEmpty then Piece.blank
      else .one (Regex.alts (alternatives.map sequence))
    some { d with groups, pieces := piece :: g.before }

def comma (d : Draft) : Draft :=
  match d.groups with
  | [] => d.push (.only ',')
  | g :: groups =>
    { d with groups := { g with finished := d.pieces :: g.finished } :: groups, pieces := [] }

end Draft

inductive Bracket
  | closed (s : CharSet) (length : Nat)
  | unclosed
  | reversed

/-- The bytes that stand between brackets for a range of characters: those of its ends, and those
between the last of the first end and the first of the last end. -/
def rangeBytes (a b : Char) : CharSet :=
  let ends := CharSet.ofText (Text.charBytes a ++ Text.charBytes b)
  match (Text.charBytes a).getLast?, (Text.charBytes b).head? with
  | some lo, some hi => if a = b then ends else .union ends (.range lo hi)
  | _, _ => ends

/-- The members of a set up to the closing bracket: the ranges so far from the last to the first,
whether the bracket was opened just now, whether a range is open, and how many characters are
read. -/
def bracketFrom (ranges : List (Char × Char)) (first inRange : Bool) (length : Nat) :
    Text → Bracket
  | [] => .unclosed
  | c :: t =>
    if c = ']' && !first then
      let ranges := if inRange then ('-', '-') :: ranges else ranges
      .closed (ranges.foldl (fun s (a, b) => .union (rangeBytes a b) s) .nothing) (length + 1)
    else if c = '-' && !first && !inRange then bracketFrom ranges false true (length + 1) t
    else if inRange then
      match ranges with
      | (a, _) :: rs =>
        if c < a then .reversed else bracketFrom ((a, c) :: rs) false false (length + 1) t
      | [] => .reversed
    else bracketFrom ((c, c) :: ranges) false false (length + 1) t

def bracket : Text → Bracket
  | [] => .unclosed
  | c :: t =>
    if c = '!' || c = '^' then
      match bracketFrom [] true false 1 t with
      | .closed s n => .closed (.compl s) n
      | b => b
    else bracketFrom [] true false 0 (c :: t)

/-- Reads a glob whose first `skip` characters are read already and that `before` precedes. -/
def readFrom : (skip : Nat) → (before : Option Char) → Draft → Text → Option Draft
  | _, _, d, [] => some d
  | skip + 1, _, d, c :: t => readFrom skip (some c) d t
  | 0, before, d, c :: t =>
    if c = '?' then readFrom 0 (some c) (d.push (.one inName)) t
    else if c = '*' then
      let (d, n) := d.asterisk before t
      readFrom n (some c) d t
    else if c = '[' && !d.unclosed then
      match bracket t with
      | .closed s n => readFrom n (some c) (d.push (.one (.char s))) t
      | .unclosed => readFrom 0 (some c) { d.push (.only c) with unclosed := true } t
      | .reversed => none
    else if c = '\x7b' then
      let groups := ⟨d.pieces, []⟩ :: d.groups
      readFrom 0 (some c) { d with groups, pieces := [] } t
    else if c = '\x7d' then (d.close?).bind fun d => readFrom 0 (some c) d t
    else if c = ',' then readFrom 0 (some c) d.comma t
    else if c = '\\' then
      match t with
      | [] => none
      | e :: _ => readFrom 1 (some c) (d.push (.only e)) t
    else readFrom 0 (some c) (d.push (.only c)) t

/-- The expression over the bytes of a path that a glob stands for, if it is one. -/
def ofText? (t : Text) : Option Regex :=
  match readFrom 0 none {} t with
  | some d =>
    if !d.groups.isEmpty then none
    else some (match d.pieces with
      | [.leading] => Regex.whole .anything
      | ps => Regex.whole (Draft.sequence ps))
  | none => none

end IgnoreGlob

end SuiteAudit
