import SuiteAudit.Path
import SuiteAudit.Text.Bytes

/-!
# File trees

A tree of directories and files with a working directory in it, and how paths find their way through
it.
-/

namespace SuiteAudit

inductive FileContent
  | text (t : Text)
  | bytes (bs : List UInt8)

namespace FileContent

def ofBytes (bs : List UInt8) : FileContent :=
  match Text.ofBytes? bs with
  | some t => text t
  | none => bytes bs

def byteLines : List UInt8 → List (List UInt8)
  | [] => []
  | 13 :: 10 :: bs => [] :: byteLines bs
  | 10 :: bs => [] :: byteLines bs
  | b :: bs => match byteLines bs with
    | [] => [[b]]
    | l :: ls => (b :: l) :: ls

def takeTexts : List (Option Text) → List Text
  | some t :: ts => t :: takeTexts ts
  | _ => []

/-- The lines of a content, up to the first that is no text. -/
def lines : FileContent → List Text
  | text t => Text.lines t
  | bytes bs => takeTexts ((byteLines bs).map Text.ofBytes?)

end FileContent

inductive FileTree
  | file (content : FileContent)
  | directory (entries : List (Text × FileTree))

inductive FileFault
  | missing
  | notDirectory
  | isDirectory
  | tooLong
  /-- The path holds the character that ends a path. -/
  | unusable
  | notText
deriving DecidableEq, Repr

def FileFault.message : FileFault → Text
  | missing => "No such file or directory (os error 2)"
  | notDirectory => "Not a directory (os error 20)"
  | isDirectory => "Is a directory (os error 21)"
  | tooLong => "File name too long (os error 36)"
  | unusable => "file name contained an unexpected NUL byte"
  | notText => "stream did not contain valid UTF-8"

namespace FileTree

def empty : FileTree := directory []

def isDirectory : FileTree → Bool
  | file _ => false
  | directory _ => true

def entries : FileTree → List (Text × FileTree)
  | file _ => []
  | directory es => es

def text? : FileTree → Except FileFault Text
  | file (.text t) => .ok t
  | file (.bytes _) => .error .notText
  | directory _ => .error .isDirectory

def find? : List Text → FileTree → Option FileTree
  | [], t => some t
  | n :: names, t => (t.entries.lookup n).bind (find? names)

def alterEntry (name : Text) (f : Option FileTree → FileTree) :
    List (Text × FileTree) → List (Text × FileTree)
  | [] => [(name, f none)]
  | (n, t) :: es => if n = name then (n, f (some t)) :: es else (n, t) :: alterEntry name f es

/-- The tree with what a list of names leads to changed by `f`. Directories that are missing on the
way are made. -/
def alter (f : Option FileTree → FileTree) : List Text → Option FileTree → FileTree
  | [], t => f t
  | n :: names, t => directory (alterEntry n (alter f names) (t.getD empty).entries)

def put (t : FileTree) (names : List Text) (new : FileTree) : FileTree :=
  alter (fun _ => new) names (some t)

/-- The tree with a directory at a list of names. One that is there already is kept. -/
def makeDirectory (t : FileTree) (names : List Text) : FileTree :=
  alter (fun old => directory ((old.map entries).getD [])) names (some t)

end FileTree

/-- A file tree and the names that lead to the working directory in it. -/
structure Workspace where
  tree : FileTree := .empty
  directory : List Text := []

namespace Workspace

def isLongName (name : Text) : Bool := 255 < (Text.bytes name).length

def allow (p : SourcePath) : Except FileFault Unit :=
  if p.text.contains '\x00' then .error .unusable
  else if p.text.isEmpty then .error .missing
  else if 4096 ≤ (Text.bytes p.text).length then .error .tooLong
  else .ok ()

def step (w : Workspace) (names : List Text) (piece : Text) : Except FileFault (List Text) :=
  match w.tree.find? names with
  | some (.directory es) =>
    if piece.isEmpty || piece = ['.'] then .ok names
    else if piece = ['.', '.'] then .ok names.dropLast
    else if (es.lookup piece).isSome then .ok (names ++ [piece])
    else if isLongName piece then .error .tooLong
    else .error .missing
  | some (.file _) => .error .notDirectory
  | none => .error .missing

def start (w : Workspace) (p : SourcePath) : List Text := if p.isAbsolute then [] else w.directory

/-- The names that a path leads to from the root of the tree. The empty path leads nowhere. -/
def locate (w : Workspace) (p : SourcePath) : Except FileFault (List Text) := do
  allow p
  (Text.split '/' p.text).foldlM w.step (w.start p)

def find (w : Workspace) (p : SourcePath) : Except FileFault FileTree := do
  let names ← w.locate p
  match w.tree.find? names with
  | some t => .ok t
  | none => .error .missing

def read (w : Workspace) (p : SourcePath) : Except FileFault Text := do (← w.find p).text?

def hasFile (w : Workspace) (p : SourcePath) : Bool :=
  match w.find p with
  | .ok t => !t.isDirectory
  | .error _ => false

def lines (w : Workspace) (p : SourcePath) : List Text :=
  match w.find p with
  | .ok (.file content) => content.lines
  | _ => []

/-- The workspace after writing a file. The directory of the file has to be there. A path with a slash
at its end can only name a directory. -/
def write (w : Workspace) (p : SourcePath) (t : Text) : Except FileFault Workspace := do
  allow p
  let pieces := Text.split '/' p.text
  let named := (pieces.reverse.dropWhile List.isEmpty).reverse
  match named.getLast? with
  | none => .error .isDirectory
  | some name =>
    let home ← named.dropLast.foldlM w.step (w.start p)
    match w.tree.find? home with
    | some (.directory es) =>
      if named.length < pieces.length then .error .isDirectory
      else if (Component.ofPiece? name).all (· = .up) then .error .isDirectory
      else if isLongName name then .error .tooLong
      else if (es.lookup name).any FileTree.isDirectory then .error .isDirectory
      else .ok { w with tree := w.tree.put (home ++ [name]) (.file (.text t)) }
    | some (.file _) => .error .notDirectory
    | none => .error .missing

end Workspace

end SuiteAudit
