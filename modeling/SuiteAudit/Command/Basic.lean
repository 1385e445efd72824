import SuiteAudit.Path
import SuiteAudit.Report.Terminal

/-!
# Commands

What the program can be asked to do.
-/

namespace SuiteAudit

inductive ReportFormat
  | json
  | terminal
deriving DecidableEq, Repr

def ReportFormat.text : ReportFormat → Text
  | json => "json"
  | terminal => "terminal"

def ReportFormat.ofText? (t : Text) : Option ReportFormat :=
  [json, terminal].find? fun f => f.text = t

structure AuditOptions where
  features : SourcePath := ⟨"features"⟩
  stepDefinitions : SourcePath := ⟨"features"⟩
  /-- The settings file, if not the one that is found. -/
  config : Option SourcePath := none
  format : ReportFormat := .terminal
  output : Option SourcePath := none
  top : Nat := SuiteReport.standardTop
  /-- How many workers may share the work; zero leaves it open. -/
  jobs : Nat := 0
  ignore : List Text := []
  noColor : Bool := false
deriving DecidableEq, Repr

inductive Command
  | analyze (options : AuditOptions)
  | init (force : Bool)
deriving DecidableEq, Repr

end SuiteAudit
