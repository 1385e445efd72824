import SuiteAudit.Feature.Outline
import SuiteAudit.Rule.Basic
import SuiteAudit.StepFile.Hook
import SuiteAudit.StepFile.Smell
import SuiteAudit.StepFile.TagExpression

/-!
# Checks

What there is to say against a node, before it is asked whether a rule is enabled and judges nodes
of that kind. The order of the violations is the order in which their phrases are first seen.
-/

namespace SuiteAudit

structure Violation where
  rule : RuleId
  detail : Option Text := none
deriving DecidableEq, Repr

structure Criteria where
  table : RuleTable
  words : List (Text × Regex)

namespace Check

def violationIf (b : Bool) (rule : RuleId) : List Violation := if b then [⟨rule, none⟩] else []

def violationEach {α : Type} (xs : List α) (rule : RuleId) : List Violation :=
  xs.map fun _ => ⟨rule, none⟩

/-- Whether the count reaches the limit, if there is one. -/
def atLeast (count : Nat) (limit : Option Float) : Bool := limit.any fun l => Float.ofNat count ≥ l

/-! ## Names and tags -/

def name (t : Text) : List Violation :=
  violationIf (Text.allBlank t) .noDescription ++
    violationIf (t.any Text.isDecimal) .numbersInDescription

def isCommentedTag (tag : Text) : Bool := tag.head? = some '#'

/-- The tags that occur again, each once, where `seen` came before and `reported` is found
already. -/
def repeatedFrom (seen reported : List Text) : List Text → List Text
  | [] => []
  | t :: ts =>
    if !seen.contains t then repeatedFrom (t :: seen) reported ts
    else if reported.contains t then repeatedFrom seen reported ts
    else t :: repeatedFrom seen (t :: reported) ts

/-- The tags that occur more than once, each once, in the order of their first repetition. -/
def repeated (tags : List Text) : List Text := repeatedFrom [] [] tags

/-- Checks of the tags of a node, of which `own` are not inherited. -/
def tags (c : Criteria) (tags own : List Text) : List Violation :=
  violationIf (atLeast tags.length (c.table.condition? .tooManyTags "max")) .tooManyTags ++
    (repeated tags).map (fun t => ⟨.duplicateTag, some t⟩) ++
    violationEach (own.filter isCommentedTag) .commentedTag

def ownTags (s : Scenario) (inherited : Nat) : List Text := s.tags.take (s.tags.length - inherited)

/-! ## Features -/

/-- The tags that every scenario of a feature with more than one has of its own, in their order in
the first scenario. -/
def sharedTags (f : Feature) : List Text :=
  match f.scenarios with
  | first :: second :: rest =>
    let inherited := f.tags.length
    ((ownTags first inherited).filter fun t =>
      !isCommentedTag t &&
        (second :: rest).all fun s => (ownTags s inherited).contains t).eraseDups
  | _ => []

def featureSharing (c : Criteria) (f : Feature) (shared : List Text) : List Violation :=
  let count := f.scenarios.length
  name f.name ++
    violationIf (f.background.isNone && count == 0) .emptyFeature ++
    violationIf (f.background.isSome && count == 0) .backgroundWithNoScenarios ++
    violationIf (f.background.isSome && count == 1) .backgroundWithOneScenario ++
    violationIf (atLeast count (c.table.condition? .tooManyScenarios "max")) .tooManyScenarios ++
    shared.map (fun t => ⟨.sameTagOnAllScenarios, some t⟩) ++
    tags c f.tags f.tags

def feature (c : Criteria) (f : Feature) : List Violation := featureSharing c f (sharedTags f)

/-! ## Scenarios -/

/-- The place of a keyword in the order of a scenario. Other keywords go on with what came before. -/
def rank? : StepKeyword → Option Nat
  | .given => some 0
  | .action => some 1
  | .outcome => some 2
  | _ => none

/-- Whether some keyword comes before its predecessor, the last of which has the rank `previous`. -/
def outOfOrderFrom (previous : Option Nat) : List StepKeyword → Bool
  | [] => false
  | k :: ks => match rank? k with
    | some r => previous.any (r < ·) || outOfOrderFrom (some r) ks
    | none => outOfOrderFrom previous ks

/-- Whether the keywords ever step back in the order of context, action and outcome. -/
def outOfOrder (keywords : List StepKeyword) : Bool := outOfOrderFrom none keywords

def step (c : Criteria) (t : Text) : List Violation :=
  violationIf ((Line.splitStep? t).any fun s => (Text.words s.2).length == 1) .oneWordStep ++
    (c.words.filter fun w => w.2.isMatch t).map (fun w => ⟨.implementationWord, some w.1⟩) ++
    violationIf (Line.hasDate t) .dateUsed

def steps (c : Criteria) (s : Scenario) : List Violation :=
  let live := s.liveSteps.map Prod.fst
  let keywords := live.filterMap fun t => (Line.splitStep? t).map Prod.fst
  violationIf live.isEmpty .noSteps ++
    violationIf (atLeast live.length (c.table.condition? .tooManySteps "max")) .tooManySteps ++
    violationIf (outOfOrder keywords) .outOfOrderSteps ++
    violationIf (keywords.head?.any fun k => k = .and || k = .but) .invalidFirstStep ++
    violationEach (keywords.filter (· = .star)) .asteriskStep ++
    live.flatMap (step c) ++
    violationEach (s.steps.filter Line.isCommentedStep) .commentedStep

def examples (c : Criteria) (s : Scenario) : List Violation :=
  if s.examples.isEmpty then [⟨.noExamplesTable, none⟩]
  else
    let live := (s.exampleTable.2.filter fun r => !r.commented).length
    violationIf (live == 0) .noExamples ++
      violationIf (live == 1) .oneExample ++
      violationIf (atLeast live (c.table.condition? .tooManyExamples "max")) .tooManyExamples ++
      violationEach (s.examples.filter Line.isComment) .commentedExample

def scenarioOwning (c : Criteria) (s : Scenario) (own : List Text) : List Violation :=
  name s.name ++ tags c s.tags own ++
    violationIf (!s.tags.isEmpty) .backgroundWithTag ++
    steps c s ++
    (if s.isOutline then examples c s else [])

/-- Checks of a scenario or background whose last `inherited` tags come from the feature. -/
def scenario (c : Criteria) (s : Scenario) (inherited : Nat) : List Violation :=
  scenarioOwning c s (ownTags s inherited)

/-! ## Bodies -/

def bodyLine (line : Text) : List Violation :=
  if Smell.isTodo line then [⟨.todo, none⟩]
  else if Line.isComment line then [⟨.commentedCode, none⟩]
  else violationIf (Smell.isPrinting line) .lazyDebugging

def sleep (c : Criteria) (seconds : Float) : List Violation :=
  violationIf ((c.table.condition? .smallSleep "max").any fun max => seconds ≤ max) .smallSleep ++
    violationIf ((c.table.condition? .largeSleep "min").any fun min => seconds > min) .largeSleep

def nested (d : StepDefinition) (t : Text) : List Violation :=
  ⟨.nestedStep, none⟩ :: violationIf (d.isMatch t) .recursiveNestedStep

def stepDefinition (c : Criteria) (d : StepDefinition) : List Violation :=
  violationIf d.code.isEmpty .noCode ++
    violationIf (atLeast d.parameters.length (c.table.condition? .tooManyParameters "max"))
      .tooManyParameters ++
    d.nested.flatMap (fun e => nested d e.2) ++
    violationIf (Smell.isUniversal d.source) .universalMatch ++
    d.body.flatMap bodyLine ++
    violationIf (d.code.any fun line => (Smell.afterPending? line).isSome) .pending ++
    (d.code.filterMap Smell.sleepSeconds?).flatMap (sleep c)

def hookContent (h : Hook) : List Violation :=
  let lines := h.body.filter fun line => !Text.allBlank line
  if lines.isEmpty then [⟨.emptyHook, none⟩]
  else violationIf (lines.all Line.isComment) .hookAllComments

def hookTags (h : Hook) : List Violation :=
  let tokens := (h.filters.flatMap TagToken.all).map fun k => (k.isNegated, k.tag)
  violationIf (tokens.any fun k => k.1 && tokens.contains (false, k.2)) .hookConflictingTags ++
    violationIf (tokens.eraseDups.length < tokens.length) .hookDuplicateTags

def aroundHook (h : Hook) : List Violation :=
  violationIf (h.parameters.length != 2) .aroundHookWithout2Parameters ++
    match h.parameters[1]? with
    | some block =>
      let call := block ++ ".call".toList
      violationIf (!h.code.any fun line => Text.holds call line) .aroundHookNoBlockCall
    | none => []

def hook (h : Hook) : List Violation :=
  let begins := h.code.any fun line => (Smell.afterBegin? line).isSome
  let rescues := h.code.any fun line => (Smell.afterRescue? line).isSome
  hookContent h ++
    violationIf (!h.code.isEmpty && !(begins && rescues)) .hookNoDebugging ++
    hookTags h ++
    (if h.kind = .around then aroundHook h else []) ++
    h.body.flatMap bodyLine

end Check

end SuiteAudit
