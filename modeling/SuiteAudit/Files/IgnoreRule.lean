import SuiteAudit.Files.Glob
import SuiteAudit.Files.Tree

/-!
# Ignore files

Rules in `.ignore` and `.gitignore` files, and how the rules of a directory and of those above it
decide whether an entry is left out.
-/

namespace SuiteAudit

structure IgnoreRule where
  /-- Matches the bytes of paths as seen from the directory of the file. -/
  pattern : Regex
  /-- The rule takes entries in again that another one leaves out. -/
  keeps : Bool
  directoryOnly : Bool

namespace IgnoreRule

/-- The line without white space at its end, unless a backslash saves a blank. -/
def trimLine (line : Text) : Text :=
  if (Text.before? ['\\', ' '] line).isSome then line else Text.trimEnd line

/-- Cuts the marks in front of a glob: whether the rule keeps entries, whether the glob starts at
the directory of the file, and the rest. -/
def cutMarks (line : Text) : Bool × Bool × Text :=
  match line with
  | '\\' :: '!' :: t => (false, false, '!' :: t)
  | '\\' :: '#' :: t => (false, false, '#' :: t)
  | '!' :: '/' :: t => (true, true, t)
  | '!' :: t => (true, false, t)
  | '/' :: t => (false, true, t)
  | t => (false, false, t)

def cutSlash (glob : Text) : Bool × Text :=
  match Text.before? ['/'] glob with
  | some t => (true, (Text.before? ['\\'] t).getD t)
  | none => (false, glob)

/-- The glob as it has to match: one without a slash matches in every directory, and one that ends in
two asterisks matches what is below a directory. -/
def complete (anchored : Bool) (glob : Text) : Text :=
  let anywhere := !anchored && !glob.contains '/' && glob != ['*', '*']
  let glob := if anywhere then "**/".toList ++ glob else glob
  if (Text.before? "/**" glob).isSome then glob ++ "/*".toList else glob

def ofLine? (line : Text) : Option IgnoreRule :=
  let line := trimLine line
  if line.isEmpty || line.head? = some '#' then none
  else
    let (keeps, anchored, glob) := cutMarks line
    let (directoryOnly, glob) := cutSlash glob
    (IgnoreGlob.ofText? (complete anchored glob)).map fun pattern =>
      { pattern, keeps, directoryOnly }

/-- The rules in the lines of a file. Byte order marks at its start do not count. -/
def ofLines : List Text → List IgnoreRule
  | [] => []
  | first :: lines => (first.dropWhile (· = '\ufeff') :: lines).filterMap ofLine?

/-- The verdict of rules on an entry, whose path is seen from their directory: the last rule that
matches decides. -/
def verdict (rules : List IgnoreRule) (path : Text) (isDirectory : Bool) : Option Bool :=
  (rules.reverse.find? fun r =>
    (!r.directoryOnly || isDirectory) && r.pattern.isMatch (Text.bytes path)).map fun r => !r.keeps

end IgnoreRule

structure IgnoreLevel where
  depth : Nat
  repository : Bool
  plain : List IgnoreRule
  git : List IgnoreRule
  exclude : List IgnoreRule

namespace IgnoreLevel

def linesAt (t : FileTree) (names : List Text) : List Text :=
  match t.find? names with
  | some (.file content) => content.lines
  | _ => []

/-- The directory that a repository shares with others, if the lines of its `.git` file lead to it.
Paths in these files are seen from the working directory, unless the second one starts with a dot. -/
def sharedDirectory? (w : Workspace) (lines : List Text) : Option SourcePath := do
  let own ← lines.head?.bind (Text.after? "gitdir: ")
  let line ← (w.lines (SourcePath.join ⟨own⟩ ⟨"commondir"⟩)).head?
  some (if line.head? = some '.' then SourcePath.join ⟨own⟩ ⟨line⟩ else ⟨line⟩)

def excludeLines (w : Workspace) (t : FileTree) : List Text :=
  match t.find? [".git"] with
  | some (.file content) =>
    match sharedDirectory? w content.lines with
    | some shared => w.lines (shared.join ⟨"info/exclude"⟩)
    | none => []
  | _ => linesAt t [".git", "info", "exclude"]

def ofDirectory (w : Workspace) (depth : Nat) (t : FileTree) : IgnoreLevel :=
  { depth
    repository := (t.entries.lookup ".git".toList).isSome || (t.entries.lookup ".jj".toList).isSome
    plain := IgnoreRule.ofLines (linesAt t [".ignore"])
    git := IgnoreRule.ofLines (linesAt t [".gitignore"])
    exclude := IgnoreRule.ofLines (excludeLines w t) }

/-- The rules of the directories on the way to a place, the place itself excluded, from the nearest
to the root. -/
def above (w : Workspace) (names : List Text) : List IgnoreLevel :=
  (List.range names.length).reverse.filterMap fun depth =>
    (w.tree.find? (names.take depth)).map (ofDirectory w depth)

def ofRepository : List IgnoreLevel → List IgnoreLevel
  | [] => []
  | l :: ls => if l.repository then [l] else l :: ofRepository ls

def relative (l : IgnoreLevel) (names : List Text) : Text := Text.join ['/'] (names.drop l.depth)

def nearest (rules : IgnoreLevel → List IgnoreRule) (levels : List IgnoreLevel) (names : List Text)
    (isDirectory : Bool) : Option Bool :=
  levels.findSome? fun l => IgnoreRule.verdict (rules l) (l.relative names) isDirectory

/-- Whether an entry is left out. Rules of `.ignore` files come first; those of repositories count
only inside of one, and not beyond where it starts. -/
def ignores (levels : List IgnoreLevel) (names : List Text) (isDirectory : Bool) : Bool :=
  let inside := if levels.any repository then ofRepository levels else []
  ((nearest plain levels names isDirectory).or
    ((nearest git inside names isDirectory).or
      (nearest exclude inside names isDirectory))).getD false

end IgnoreLevel

end SuiteAudit
