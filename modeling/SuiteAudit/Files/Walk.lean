import SuiteAudit.Files.IgnoreRule
import SuiteAudit.Suite

/-!
# Collecting files

The files below a root that have one of the wanted extensions and that neither an ignore file nor a
glob leaves out, in the order of their paths.
-/

namespace SuiteAudit

inductive FileError
  | walk (root : SourcePath) (fault : FileFault)
  | source (file : SourcePath) (fault : FileFault)
  | settings (file : SourcePath) (fault : FileFault)
deriving DecidableEq, Repr

namespace FileError

def path : FileError → SourcePath
  | walk p _ | source p _ | settings p _ => p

def cause : FileError → Text
  | walk root fault =>
    "IO error for operation on ".toList ++ root.text ++ ": ".toList ++ fault.message
  | source _ fault | settings _ fault => fault.message

def message (e : FileError) : Text :=
  "File system error: ".toList ++ match e with
    | walk root _ =>
      "Failed to walk directory: ".toList ++ root.text ++ ": ".toList ++ e.cause
    | source _ _ => "Failed to read source file"
    | settings _ _ => "Failed to read config file"

def chain (e : FileError) : List Text :=
  match e with
  | walk _ fault => [e.message, e.cause, fault.message]
  | source _ _ | settings _ _ => [e.message, e.cause]

end FileError

/-! ## Walking -/

namespace FileTree

mutual

/-- The names of all files in a tree that no rule leaves out. The tree stands at `names` in the
workspace, with the rules of the directories above it. -/
def files (w : Workspace) (levels : List IgnoreLevel) (names : List Text) :
    FileTree → List (List Text)
  | file _ => [names]
  | directory es =>
    filesOfAll w (IgnoreLevel.ofDirectory w names.length (directory es) :: levels) names es

def filesOfAll (w : Workspace) (levels : List IgnoreLevel) (names : List Text) :
    List (Text × FileTree) → List (List Text)
  | [] => []
  | e :: es => filesOfEntry w levels names e ++ filesOfAll w levels names es

def filesOfEntry (w : Workspace) (levels : List IgnoreLevel) (names : List Text) :
    Text × FileTree → List (List Text)
  | (n, t) =>
    let place := names ++ [n]
    if IgnoreLevel.ignores levels place t.isDirectory then [] else t.files w levels place

end

end FileTree

structure Selection where
  extensions : List Text := []
  globs : List Regex := []

namespace Selection

def features : Selection := { extensions := ["feature"] }

def stepFiles : Selection := { extensions := ["rb"] }

/-- The selection without the files that match a glob. What is no glob is passed over. -/
def without (s : Selection) (globs : List Text) : Selection :=
  { s with globs := globs.filterMap PathGlob.ofText? }

/-- Whether a file is wanted, by its path and by its path below the root. -/
def wants (s : Selection) (path : SourcePath) (relative : Text) : Bool :=
  (path.extension?.any s.extensions.contains) &&
    !s.globs.any fun g => g.isMatch path.text || g.isMatch relative

end Selection

namespace Workspace

/-- All files below a root, by their paths and by their paths below the root. A dash stands for the
standard input, below which there are none. -/
def filesBelow (w : Workspace) (root : SourcePath) : Except FileError (List (SourcePath × Text)) :=
  if root.text = ['-'] then .ok []
  else match w.locate root with
    | .error fault => .error (.walk root fault)
    | .ok names => match w.tree.find? names with
      | none => .error (.walk root .missing)
      | some tree =>
        .ok ((tree.files w (IgnoreLevel.above w names) names).map fun found =>
          let relative := Text.join ['/'] (found.drop names.length)
          (if relative.isEmpty then root else root.join ⟨relative⟩, relative))

def collect (w : Workspace) (root : SourcePath) (s : Selection) :
    Except FileError (List SourcePath) := do
  let found ← w.filesBelow root
  let wanted := (found.filter fun f => s.wants f.1 f.2).map Prod.fst
  .ok (wanted.mergeSort fun a b => a.order b != .gt)

def source (w : Workspace) (p : SourcePath) : Except FileError SourceFile :=
  match w.read p with
  | .ok text => .ok ⟨p, text⟩
  | .error fault => .error (.source p fault)

def sources (w : Workspace) (root : SourcePath) (s : Selection) :
    Except FileError (List SourceFile) := do
  (← w.collect root s).mapM w.source

end Workspace

end SuiteAudit
