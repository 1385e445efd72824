import SuiteAudit.Config
import SuiteAudit.Feature.Reader
import SuiteAudit.Universe

/-!
# Suites

The whole audit: read the files, find out which steps reach which definitions, judge every node and
add up.
-/

namespace SuiteAudit

structure SourceFile where
  path : SourcePath
  text : Text
deriving DecidableEq, Repr

inductive AuditError
  | config (e : ConfigError)
  | overflow
deriving DecidableEq, Repr

structure Suite where
  features : List Feature := []
  definitions : List StepDefinition := []
  hooks : List Hook := []

namespace Suite

def ofFiles (featureFiles stepFiles : List SourceFile) : Suite :=
  { features := featureFiles.map fun f => Feature.ofText f.path f.text
    definitions := stepFiles.flatMap fun f => StepDefinition.ofText f.path f.text
    hooks := stepFiles.flatMap fun f => Hook.ofText f.path f.text }

def steps (s : Suite) : Universe := Universe.build s.features s.definitions

def catalog (u : Universe) (s : Suite) : Suite :=
  { s with definitions := s.definitions.map (StepDefinition.catalog u) }

def evaluate (c : Criteria) (s : Suite) : Suite :=
  { features := s.features.map c.evaluateFeature
    definitions := s.definitions.map c.evaluateDefinition
    hooks := s.hooks.map c.evaluateHook }

/-- The cards of all nodes with their kinds: each feature followed by its blocks, then definitions,
then hooks. -/
def cards (s : Suite) : List (NodeKind × ScoreCard) :=
  s.features.flatMap (fun f =>
      (.feature, f.card) :: f.blocks.map fun b => (b.nodeKind, b.card)) ++
    s.definitions.map (fun d => (.stepDefinition, d.card)) ++
    s.hooks.map fun h => (.hook, h.card)

def checked (s : Suite) : Except Overflow Suite :=
  if s.cards.all fun c => c.2.fits then .ok s else .error .overflow

def summary (s : Suite) (thresholds : Thresholds) : SuiteSummary :=
  SuiteSummary.assess s.features s.definitions s.hooks thresholds

def summary? (s : Suite) (thresholds : Thresholds) : Except Overflow SuiteSummary :=
  let summary := s.summary thresholds
  if summary.fits then .ok summary else .error .overflow

end Suite

structure SuiteReport where
  suite : Suite
  dead : DeadSteps
  summary : SuiteSummary

def audit (config : Config) (featureFiles stepFiles : List SourceFile) :
    Except AuditError SuiteReport :=
  match config.criteria? with
  | .error e => .error (.config e)
  | .ok criteria =>
    let suite := Suite.ofFiles featureFiles stepFiles
    let suite := suite.catalog suite.steps
    let judged := suite.evaluate criteria
    let summary := judged.summary config.thresholds
    if summary.fits then .ok ⟨judged, DeadSteps.collect suite.definitions, summary⟩
    else .error .overflow

end SuiteAudit
