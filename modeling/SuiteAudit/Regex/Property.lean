import SuiteAudit.Regex.CharSet
import SuiteAudit.Text.Age
import SuiteAudit.Text.Break

/-!
# Named properties

The names by which a pattern can ask for a Unicode property, as in `\p{Lu}` or `\p{Letter}`.
-/

namespace SuiteAudit.CharSet

/-- A property name in its loose form: without case, blanks, hyphens and underscores, and without
an initial `is`. -/
def looseName (name : Text) : Text :=
  let lower := name.map Char.toLower
  let (body, cut) := match Text.after? "is" lower with
    | some rest => (rest, true)
    | none => (lower, false)
  let loose := body.filter fun c => c.toNat < 0x80 && c != ' ' && c != '_' && c != '-'
  if cut && loose = ['c'] then "isc" else loose

def categoryNames : List (String × List String) :=
  [("Lu", ["lu", "uppercaseletter"]), ("Ll", ["ll", "lowercaseletter"]),
   ("Lt", ["lt", "titlecaseletter"]), ("Lm", ["lm", "modifierletter"]),
   ("Lo", ["lo", "otherletter"]), ("Mn", ["mn", "nonspacingmark"]), ("Mc", ["mc", "spacingmark"]),
   ("Me", ["me", "enclosingmark"]), ("Nd", ["nd", "decimalnumber", "digit"]),
   ("Nl", ["nl", "letternumber"]), ("No", ["no", "othernumber"]),
   ("Pc", ["pc", "connectorpunctuation"]), ("Pd", ["pd", "dashpunctuation"]),
   ("Ps", ["ps", "openpunctuation"]), ("Pe", ["pe", "closepunctuation"]),
   ("Pi", ["pi", "initialpunctuation"]), ("Pf", ["pf", "finalpunctuation"]),
   ("Po", ["po", "otherpunctuation"]), ("Sm", ["sm", "mathsymbol"]),
   ("Sc", ["sc", "currencysymbol"]), ("Sk", ["sk", "modifiersymbol"]),
   ("So", ["so", "othersymbol"]), ("Zs", ["zs", "spaceseparator"]),
   ("Zl", ["zl", "lineseparator"]), ("Zp", ["zp", "paragraphseparator"]),
   ("Cc", ["cc", "control", "cntrl"]), ("Cf", ["cf", "format"]),
   ("Co", ["co", "privateuse"]), ("Cn", ["cn", "unassigned"])]

def groupNames : List (Char × List String) :=
  [('L', ["l", "letter"]), ('M', ["m", "mark", "combiningmark"]), ('N', ["n", "number"]),
   ('P', ["p", "punctuation", "punct"]), ('S', ["s", "symbol"]), ('Z', ["z", "separator"]),
   ('C', ["c", "other"])]

def ofCategoryName? (loose : Text) : Option CharSet :=
  let name := String.ofList loose
  let cased := unions [category ⟨'L', 'u'⟩, category ⟨'L', 'l'⟩, category ⟨'L', 't'⟩]
  match name with
  | "any" => some all
  | "ascii" => some (range '\x00' '\x7f')
  | "assigned" => some (compl (category ⟨'C', 'n'⟩))
  | "lc" | "casedletter" => some cased
  | _ =>
    match groupNames.find? fun g => g.2.contains name with
    | some (g, _) => some (group g)
    | none =>
      match categoryNames.find? fun k => k.2.contains name with
      | some (code, _) => match code.toList with
        | [g, k] => some (category ⟨g, k⟩)
        | _ => none
      | none => none

/-- The set of a property that is given by one name: one that characters have or have not, a general
category or a script. -/
def ofPropertyName? (name : Text) : Option CharSet :=
  let loose := looseName name
  ((Text.propertyOfName? loose).map having).or <|
    (ofCategoryName? loose).or <|
      (Text.Script.ofName? loose).map fun code => having fun c => Text.Script.ofChar c = code

/-- The set of the characters whose property `name` has the value `value`. The age of a character
counts for all later versions too. -/
def ofPropertyValue? (name value : Text) : Option CharSet :=
  let value := looseName value
  match String.ofList (looseName name) with
  | "generalcategory" | "gc" => ofCategoryName? value
  | "script" | "sc" =>
    (Text.Script.ofName? value).map fun code => having fun c => Text.Script.ofChar c = code
  | "scriptextensions" | "scx" =>
    (Text.Script.ofName? value).map fun code =>
      having fun c => (Text.Script.usedWith c).contains code
  | "age" =>
    (Text.Age.ofName? value).map fun a => having fun c => (Text.Age.ofChar? c).any (·.upTo a)
  | "graphemeclusterbreak" | "gcb" => (Text.Break.grapheme.ofName? value).map having
  | "wordbreak" | "wb" => (Text.Break.word.ofName? value).map having
  | "sentencebreak" | "sb" => (Text.Break.sentence.ofName? value).map having
  | _ => none

end SuiteAudit.CharSet
