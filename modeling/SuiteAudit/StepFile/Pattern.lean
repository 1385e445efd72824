import SuiteAudit.Regex.Syntax

/-!
# Patterns of step definitions

A step definition says which steps it matches by a regular expression between slashes or by a quoted
expression with parameters in braces. Both become a regular expression, kept together with its text.
A regular expression that cannot be read matches its own text and nothing else.
-/

namespace SuiteAudit

structure Pattern where
  text : Text
  regex : Regex

namespace Pattern

def isMatch (p : Pattern) (t : Text) : Bool := p.regex.isMatch t

def literal (t : Text) : Pattern :=
  ⟨'^' :: Regex.escape t ++ ['$'], Regex.whole (Regex.literal t)⟩

/-! ## Regular expressions between slashes -/

/-- The text of a regular expression in the notation of the reader: hexadecimal digits have no
letter of their own there, the end of a text is `\z`, and a slash needs no backslash. -/
def adapt : Text → Text
  | [] => []
  | ['\\'] => "\\\\"
  | '\\' :: c :: t =>
    (match c with
      | 'h' => "[0-9a-fA-F]".toList
      | 'H' => "[^0-9a-fA-F]".toList
      | 'Z' => "\\z".toList
      | '/' => ['/']
      | c => ['\\', c]) ++ adapt t
  | c :: t => c :: adapt t

/-- The flags written after the closing slash, as an inline group. Under `m` a dot matches the line
feed too; `o` means nothing here. -/
def flagGroup (flags : Text) : Text :=
  let letters := [('i', 'i'), ('x', 'x'), ('m', 's')].filterMap fun (flag, letter) =>
    if flags.contains flag then some letter else none
  if letters.isEmpty then [] else "(?".toList ++ letters ++ [')']

def ofRegex (source flags : Text) : Pattern :=
  let text := flagGroup flags ++ adapt source
  match Regex.ofText? text with
  | some regex => ⟨text, regex⟩
  | none => literal source

/-! ## Quoted expressions -/

/-- A part of a quoted expression: a character that stands for itself or a named parameter. -/
inductive Part
  | char (c : Char)
  | parameter (name : Text)
deriving DecidableEq, Repr

/-- The parts of an expression. A parameter goes from a brace to the first closing brace after it;
an opening brace without one stands for itself, as does all that follows. Inside a parameter, `name`
holds the characters since its brace from the last to the first. -/
def parts : (name : Option Text) → Text → List Part
  | none, [] => []
  | some name, [] => ('\x7b' :: name.reverse).map .char
  | none, c :: t => if c = '\x7b' then parts (some []) t else .char c :: parts none t
  | some name, c :: t =>
    if c = '\x7d' then .parameter name.reverse :: parts none t else parts (some (c :: name)) t

def parameter (name : Text) : Pattern :=
  let digits := Regex.plus (.char .digit)
  let minus := Regex.opt (Regex.literal ['-'])
  let quoted (q : Char) : Regex :=
    .seq (Regex.literal [q]) (.seq (.star (.char (.compl (.single q)))) (Regex.literal [q]))
  match String.ofList name with
  | "int" => ⟨"(-?\\d+)", .seq minus digits⟩
  | "float" => ⟨"(-?\\d*\\.?\\d+)",
      .seq minus (.seq (.star (.char .digit)) (.seq (Regex.opt (Regex.literal ['.'])) digits))⟩
  | "word" => ⟨"([^\\s]+)", Regex.plus (.char (.compl .blank))⟩
  | "string" => ⟨"(\"[^\"]*\"|'[^']*')", .alt (quoted '"') (quoted '\'')⟩
  | _ => ⟨"(.*)", Regex.anyText⟩

def Part.pattern : Part → Pattern
  | .char c => ⟨Regex.escape [c], .char (.single c)⟩
  | .parameter name => Pattern.parameter name

/-- The pattern of a quoted expression: its parts one after the other over a whole text. -/
def ofExpression (e : Text) : Pattern :=
  let patterns := (parts none e).map Part.pattern
  ⟨'^' :: patterns.flatMap Pattern.text ++ ['$'], Regex.whole (Regex.seqs (patterns.map regex))⟩

end Pattern

end SuiteAudit
