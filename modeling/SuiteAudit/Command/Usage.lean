import SuiteAudit.Command.Basic
import SuiteAudit.Histogram

/-!
# The command line

Arguments are read from left to right. The value of an option may be the next argument, and then it
is looked at only when the next known option comes or the line ends; so an argument that nobody
knows is found before a value that does not fit.
-/

namespace SuiteAudit

inductive UsageError
  | help
  | version
  | noCommand
  | unknownCommand
  | unknownArgument
  /-- A value is missing, empty or not one of those that are possible. -/
  | badValue
  | badNumber
  | repeated
  | unneededValue
deriving DecidableEq, Repr

/-- Whether the program ends well after the error. -/
def UsageError.isRequest : UsageError → Bool
  | help | version => true
  | _ => false

def UsageError.message : UsageError → Text
  | help | version => []
  | noCommand => "a command is required"
  | unknownCommand => "unknown command"
  | unknownArgument => "unexpected argument"
  | badValue => "invalid value for an option"
  | badNumber => "a number is expected"
  | repeated => "an option is used more than once"
  | unneededValue => "a flag takes no value"

namespace Usage

inductive Switch
  | features
  | stepDefinitions
  | config
  | format
  | output
  | top
  | jobs
  | ignore
  | noColor
  | force
  | help
  | version
deriving DecidableEq, Repr

namespace Switch

def long : Switch → Text
  | features => "features"
  | stepDefinitions => "step-definitions"
  | config => "config"
  | format => "format"
  | output => "output"
  | top => "top"
  | jobs => "jobs"
  | ignore => "ignore"
  | noColor => "no-color"
  | force => "force"
  | help => "help"
  | version => "version"

def short? : Switch → Option Char
  | config => some 'c'
  | format | force => some 'f'
  | output => some 'o'
  | jobs => some 'j'
  | help => some 'h'
  | version => some 'V'
  | _ => none

def takesValue : Switch → Bool
  | noColor | force | help | version => false
  | _ => true

end Switch

structure Draft where
  options : AuditOptions := {}
  force : Bool := false
  given : List Switch := []
  /-- An option whose value is still to come or to be looked at. -/
  pending : Option (Switch × Option Text) := none

def number (t : Text) : Except UsageError Nat :=
  match Text.toNat? ((Text.after? ['+'] t).getD t) with
  | some n => if n ≤ maxWord then .ok n else .error .badNumber
  | none => .error .badNumber

def path (t : Text) : Except UsageError SourcePath :=
  if t.isEmpty then .error .badValue else .ok ⟨t⟩

namespace Draft

def accept (d : Draft) (s : Switch) (v : Text) : Except UsageError Draft :=
  let o := d.options
  match s with
  | .features => do .ok { d with options := { o with features := ← path v } }
  | .stepDefinitions => do .ok { d with options := { o with stepDefinitions := ← path v } }
  | .config => do .ok { d with options := { o with config := some (← path v) } }
  | .output => do .ok { d with options := { o with output := some (← path v) } }
  | .format => match ReportFormat.ofText? v with
    | some format => .ok { d with options := { o with format } }
    | none => .error .badValue
  | .top => do .ok { d with options := { o with top := ← number v } }
  | .jobs => do .ok { d with options := { o with jobs := ← number v } }
  | .ignore => .ok { d with options := { o with ignore := o.ignore ++ [v] } }
  | .noColor => .ok { d with options := { o with noColor := true } }
  | .force => .ok { d with force := true }
  | .help => .error .help
  | .version => .error .version

/-- The draft with a switch given. Only globs may be given more than once. -/
def give (d : Draft) (s : Switch) (v : Option Text) : Except UsageError Draft :=
  if s.takesValue && v.isNone then .error .badValue
  else if s != .ignore && d.given.contains s then .error .repeated
  else ({ d with given := s :: d.given } : Draft).accept s (v.getD [])

def settle (d : Draft) : Except UsageError Draft :=
  match d.pending with
  | some (s, v) => ({ d with pending := none } : Draft).give s v
  | none => .ok d

def meet (d : Draft) (s : Switch) (attached : Option Text) : Except UsageError Draft := do
  let d ← d.settle
  if s.takesValue && attached.isNone then .ok { d with pending := some (s, none) }
  else d.give s attached

end Draft

/-- The draft after the letters behind a dash. The first letter that takes a value takes the rest of
the argument, without an equals sign in front of it. -/
def letters (known : List Switch) (d : Draft) : Text → Except UsageError Draft
  | [] => .ok d
  | c :: t => match known.find? fun s => s.short? = some c with
    | none => .error .unknownArgument
    | some s =>
      if s.takesValue then
        d.meet s (match t with
          | [] => none
          | '=' :: v => some v
          | v => some v)
      else match d.meet s none with
        | .ok d => letters known d t
        | .error e => .error e

def word (known : List Switch) (d : Draft) (t : Text) : Except UsageError Draft :=
  let (name, v) := match Text.cut? '=' t with
    | some (name, v) => (name, some v)
    | none => (t, none)
  match known.find? fun s => s.long = name with
  | none => .error .unknownArgument
  | some s => if !s.takesValue && v.isSome then .error .unneededValue else d.meet s v

/-- The draft after all arguments of a command. Only the value of an option may stand alone, and
nothing may follow two dashes. -/
def switches (known : List Switch) (d : Draft) : List Text → Except UsageError Draft
  | [] => d.settle
  | a :: rest => match a with
    | ['-', '-'] => if rest.isEmpty then d.settle else .error .unknownArgument
    | '-' :: '-' :: name => match word known d name with
      | .ok d => switches known d rest
      | .error e => .error e
    | '-' :: c :: t => match letters known d (c :: t) with
      | .ok d => switches known d rest
      | .error e => .error e
    | v => match d.pending with
      | some (s, none) => switches known { d with pending := some (s, some v) } rest
      | _ => .error .unknownArgument

def analyzeSwitches : List Switch :=
  [.features, .stepDefinitions, .config, .format, .output, .top, .jobs, .ignore, .noColor, .help]

/-- The command that judges a suite. The environment may name a settings file. -/
def analyze (environment : Option Text) (args : List Text) : Except UsageError Command := do
  let d ← switches analyzeSwitches {} args
  match d.options.config, environment with
  | none, some v => .ok (.analyze { d.options with config := some (← path v) })
  | _, _ => .ok (.analyze d.options)

def init (args : List Text) : Except UsageError Command := do
  .ok (.init (← switches [.force, .help] {} args).force)

def commandNames : List Text := ["analyze", "init", "help"]

/-- Whether the words name a command to get help on. Commands have no parts that could be named. -/
def isHelpTopic : List Text → Bool
  | [] => true
  | [t] => commandNames.contains t
  | _ => false

def command (environment : Option Text) : List Text → Except UsageError Command
  | [] => .error .noCommand
  | a :: rest => match a with
    | ['-', '-'] => match rest with
      | [] => .error .noCommand
      | t :: _ => .error (if commandNames.contains t then .unknownArgument else .unknownCommand)
    | '-' :: '-' :: name => match word [.help, .version] {} name with
      | .ok _ => command environment rest
      | .error e => .error e
    | '-' :: c :: t => match letters [.help, .version] {} (c :: t) with
      | .ok _ => command environment rest
      | .error e => .error e
    | name =>
      if name = "analyze".toList then analyze environment rest
      else if name = "init".toList then init rest
      else if name = "help".toList then .error (if isHelpTopic rest then .help else .unknownCommand)
      else .error .unknownCommand

end Usage

end SuiteAudit
