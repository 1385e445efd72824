import SuiteAudit.Command.Run

/-!
# The executable

The files that the program may look at are named on the standard input, one path a line as seen from
the working directory. They are copied into a workspace, the program runs on it, and what it printed
and wrote is copied back.
-/

namespace SuiteAudit

namespace Disk

partial def readPaths (input : IO.FS.Stream) (found : List Text) : IO (List Text) := do
  let line ← input.getLine
  if line.isEmpty then return found.reverse
  readPaths input (Text.trimEnd line.toList :: found)

def readFile? (path : Text) : IO (Option FileTree) := do
  match ← (IO.FS.readBinFile (String.ofList path)).toBaseIO with
  | .ok bytes => return some (.file (.ofBytes bytes.toList))
  | .error _ => return none

def namesOf (path : Text) : List Text :=
  (Text.split '/' path).filter fun n => !n.isEmpty && n != ['.']

def copy (w : Workspace) (path : Text) : IO Workspace := do
  match ← readFile? path with
  | some file => return { w with tree := w.tree.put (namesOf path) file }
  | none => return w

def output? : Command → Option SourcePath
  | .analyze o => o.output
  | .init _ => some ⟨configFileName⟩

/-- The workspace of a command: the files that are named, the settings, and the directory of the
file to write. -/
def workspace (c : Command) (paths : List Text) : IO Workspace := do
  let settings := match c with
    | .analyze o => (o.config.map SourcePath.text).getD configFileName
    | .init _ => configFileName
  let w ← (settings :: paths).foldlM copy {}
  match output? c with
  | some p => return { w with tree := w.tree.makeDirectory (namesOf p.text).dropLast }
  | none => return w

def save (c : Command) (e : Ending) : IO Unit := do
  match output? c, e.complaint with
  | some p, none => match e.workspace.read p with
    | .ok text => IO.FS.writeFile (String.ofList p.text) (String.ofList text)
    | .error _ => return
  | _, _ => return

end Disk

def Ending.print (e : Ending) : IO UInt32 := do
  IO.print (String.ofList e.printed)
  match e.complaint with
  | some t => IO.eprintln (String.ofList t)
  | none => pure ()
  return e.code.toUInt32

end SuiteAudit

open SuiteAudit in
def main (args : List String) : IO UInt32 := do
  let environment := (← IO.getEnv "BDDSNIFF_CONFIG").map String.toList
  let args := args.map String.toList
  match Usage.command environment args with
  | .error e => (Ending.ofUsage {} e).print
  | .ok c =>
    let paths ← match c with
      | .analyze _ => Disk.readPaths (← IO.getStdin) []
      | .init _ => pure []
    let w ← Disk.workspace c paths
    let ending := program w (← (← IO.getStdout).isTty) environment args
    Disk.save c ending
    ending.print
