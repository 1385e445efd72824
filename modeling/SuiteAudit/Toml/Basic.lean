import SuiteAudit.Text.Basic

/-!
# TOML values

Values of a TOML document and the growth of its tables: a key is set once, a table is opened once by
a header, and tables written with dotted keys or in braces are closed to headers.
-/

namespace SuiteAudit.Toml

/-- How a table came about, which decides how it may grow. -/
inductive Origin
  /-- By a header that names a table inside of it. -/
  | implied
  | headed
  | dotted
  | braced
deriving DecidableEq, Repr

inductive Value
  | text (t : Text)
  | integer (n : Int)
  | decimal (x : Float)
  | boolean (b : Bool)
  | array (vs : List Value)
  | table (origin : Origin) (entries : List (Text × Value))
  | tables (entries : List (List (Text × Value)))
  /-- A date, a time or a number that is too large. No setting takes one. -/
  | other

abbrev Entries := List (Text × Value)

namespace Entries

/-- The entries with the value at a key changed by `f`, which gets `none` for a new key and refuses
by `none`. -/
def alter? (k : Text) (f : Option Value → Option Value) : Entries → Option Entries
  | [] => (f none).map fun v => [(k, v)]
  | (k', v) :: es =>
    if k' = k then (f (some v)).map fun v => (k', v) :: es
    else (alter? k f es).map ((k', v) :: ·)

/-- Changes the table at a path below a table, with its origin at hand. Tables that are missing on
the way get the origin `new`; a dotted key does not enter a table that has a header. -/
def within (new : Origin) (f : Origin → Entries → Option Entries) :
    List Text → Origin → Entries → Option Entries
  | [], origin, es => f origin es
  | k :: path, _, es => alter? k (fun
    | none => (within new f path new []).map (.table new)
    | some (.table origin inner) =>
      if origin = .braced || (new = .dotted && origin = .headed) then none
      else (within new f path origin inner).map (.table origin)
    | some (.tables ts) => match ts.getLast? with
      | some inner => (within new f path .headed inner).map fun t => .tables (ts.dropLast ++ [t])
      | none => none
    | some _ => none) es

/-- The table with a value under a dotted key. The last table on the way has to be one that dotted
keys made. -/
def set? (key : List Text) (v : Value) (es : Entries) : Option Entries :=
  match key.getLast? with
  | none => none
  | some last =>
    within .dotted (fun origin inner =>
      if key.length != 1 && origin != .dotted then none
      else alter? last (fun | none => some v | some _ => none) inner) key.dropLast .headed es

def openTable? (path : List Text) (es : Entries) : Option Entries :=
  match path.getLast? with
  | none => none
  | some last =>
    within .implied (fun _ inner => alter? last (fun
      | none => some (.table .headed [])
      | some (.table .implied es) => some (.table .headed es)
      | some _ => none) inner) path.dropLast .headed es

def pushTable? (path : List Text) (es : Entries) : Option Entries :=
  match path.getLast? with
  | none => none
  | some last =>
    within .implied (fun _ inner => alter? last (fun
      | none => some (.tables [[]])
      | some (.tables ts) => some (.tables (ts ++ [[]]))
      | some _ => none) inner) path.dropLast .headed es

end Entries

end SuiteAudit.Toml
