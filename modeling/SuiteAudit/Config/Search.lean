import SuiteAudit.Config.Reader
import SuiteAudit.Files.Walk

/-!
# Finding settings

Settings come from the file that is asked for, or from the nearest settings file that can be read
and understood, in a directory or one above it.
-/

namespace SuiteAudit

def searchDepth : Nat := 10

inductive SettingsError
  | file (e : FileError)
  | config (e : ConfigError)
deriving DecidableEq, Repr

namespace Workspace

def configFile (w : Workspace) (p : SourcePath) : Except SettingsError Config :=
  match w.read p with
  | .error fault => .error (.file (.settings p fault))
  | .ok text => match Config.ofText text with
    | .ok c => .ok c
    | .error e => .error (.config e)

def configFrom (w : Workspace) (start : SourcePath) : Config :=
  ((start.ancestors searchDepth).findSome? fun dir =>
    (w.configFile (dir.join ⟨configFileName⟩)).toOption).getD {}

def directoryPath (w : Workspace) : SourcePath := ⟨'/' :: Text.join ['/'] w.directory⟩

def config (w : Workspace) : Config := w.configFrom w.directoryPath

end Workspace

end SuiteAudit
