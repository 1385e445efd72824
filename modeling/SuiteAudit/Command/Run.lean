import SuiteAudit.Command.Usage
import SuiteAudit.Config.Search
import SuiteAudit.Config.Template
import SuiteAudit.Report.Json

/-!
# Running commands

Commands read a workspace and give back what is printed and the workspace as it is afterwards.
-/

namespace SuiteAudit

inductive CommandError
  | settings (e : SettingsError)
  | features (e : FileError)
  | stepDefinitions (e : FileError)
  | audit (e : AuditError)
  | output (file : SourcePath) (fault : FileFault)
  | settingsExist
  | template (fault : FileFault)
deriving DecidableEq, Repr

namespace CommandError

/-- The error and all that is behind it, from the outside in. -/
def chain : CommandError → List Text
  | settings (.file e) => e.chain
  | settings (.config e) => [e.message]
  | features e => "Failed to read feature files".toList :: e.chain
  | stepDefinitions e => "Failed to read step definitions".toList :: e.chain
  | audit (.config e) => [e.message]
  | audit .overflow => ["attempt to add with overflow"]
  | output file fault => ["Failed to create output file ".toList ++ file.text, fault.message]
  | settingsExist => ["Configuration file already exists. Use --force to overwrite."]
  | template fault => [fault.message]

def message (e : CommandError) : Text := Text.join ": " e.chain

def headline (e : CommandError) : Text := e.chain.headD []

end CommandError

structure Outcome where
  workspace : Workspace
  printed : Text := []
  good : Bool := true

namespace Workspace

def audit (w : Workspace) (features stepDefinitions : SourcePath) (ignore : List Text)
    (config : Config) : Except CommandError SuiteReport := do
  let featureFiles ← (w.sources features (Selection.features.without ignore)).mapError .features
  let stepFiles ←
    (w.sources stepDefinitions (Selection.stepFiles.without ignore)).mapError .stepDefinitions
  (SuiteAudit.audit config featureFiles stepFiles).mapError .audit

def configOf (w : Workspace) (o : AuditOptions) : Except CommandError Config :=
  match o.config with
  | some file => (w.configFile file).mapError .settings
  | none => .ok w.config

def reportText (o : AuditOptions) (colours : Bool) (r : SuiteReport) : Text :=
  match o.format with
  | .json => r.jsonText
  | .terminal => r.terminalText (colours && !o.noColor && o.output.isNone) o.top

def analyze (w : Workspace) (o : AuditOptions) (colours : Bool) : Except CommandError Outcome := do
  let config ← w.configOf o
  let report ← w.audit o.features o.stepDefinitions o.ignore config
  let text := reportText o colours report
  let good := report.summary.isGood
  match o.output with
  | some file => match w.write file text with
    | .ok workspace => .ok { workspace, good }
    | .error fault => .error (.output file fault)
  | none => .ok { workspace := w, printed := text, good }

/-- Writes a settings file to start from. One that is there is kept unless force is used. -/
def writeTemplate (w : Workspace) (file : SourcePath) (force : Bool) :
    Except CommandError Outcome :=
  if w.hasFile file && !force then .error .settingsExist
  else match w.write file Config.template with
    | .ok workspace =>
      .ok { workspace, printed := "Created ".toList ++ file.text ++ " configuration file\n".toList }
    | .error fault => .error (.template fault)

def run (w : Workspace) (colours : Bool) : Command → Except CommandError Outcome
  | .analyze o => w.analyze o colours
  | .init force => w.writeTemplate ⟨configFileName⟩ force

end Workspace

/-! ## The program -/

structure Ending where
  code : Nat
  printed : Text := []
  complaint : Option Text := none
  workspace : Workspace

def versionText : Text := "bddsniff 0.1.0\n"

def helpText : Text :=
  Text.join ['\n']
    ["Quality linter for Cucumber-style BDD suites", "", "Usage: bddsniff <COMMAND>", "",
     "Commands:", "  analyze  Analyze feature files and step definitions",
     "  init     Write a default .bddsniff.toml to the current directory",
     "  help     Print this message or the help of the given subcommand(s)", "", "Options:",
     "  -h, --help     Print help", "  -V, --version  Print version", ""]

namespace Ending

def ofUsage (w : Workspace) (e : UsageError) : Ending :=
  { code := if e.isRequest then 0 else 2
    printed := match e with
      | .help => helpText
      | .version => versionText
      | _ => []
    complaint := if e.isRequest then none else some ("error: ".toList ++ e.message)
    workspace := w }

def ofError (w : Workspace) (e : CommandError) : Ending :=
  if e = .audit .overflow then { code := 101, workspace := w }
  else { code := 1, complaint := some ("Error: ".toList ++ e.headline), workspace := w }

def ofOutcome (o : Outcome) : Ending :=
  { code := if o.good then 0 else 1, printed := o.printed, workspace := o.workspace }

end Ending

def program (w : Workspace) (colours : Bool) (environment : Option Text) (args : List Text) :
    Ending :=
  match Usage.command environment args with
  | .error e => .ofUsage w e
  | .ok c => match w.run colours c with
    | .error e => .ofError w e
    | .ok o => .ofOutcome o

end SuiteAudit
