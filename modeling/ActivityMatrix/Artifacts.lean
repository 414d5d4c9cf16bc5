import ActivityMatrix.Declare.Derivation
import ActivityMatrix.ProcessGraph.Bpmn
import ActivityMatrix.RelationSets.Classification
import ActivityMatrix.Settings
import ActivityMatrix.Synthesis

/-!
# Artifacts of matrices

A valid matrix becomes a process diagram, by way of its relation sets, and, independently of that, a
Declare model. The diagram may be handed on to a layout step, which is tried and never needed.
-/

namespace ActivityMatrix

/-- Why there are no artifacts. -/
inductive ArtifactError where
  | invalid (violation : Violation)
  | badOption (message : String)
  | synthesis (error : SynthesisError)
  deriving Repr, Inhabited

def ArtifactError.message : ArtifactError → String
  | invalid violation => violation.message
  | badOption message => message
  | synthesis error => error.message

/-- A layout step: a new text for a diagram, or nothing if it fails. -/
abbrev LayoutStep := String → Option String

/-- Both artifacts of a matrix with what was found out on the way. -/
structure Artifacts where
  order : List String
  relations : RelationSets
  synthesis : SynthesisResult
  xml : String
  /-- The Declare model, with the pairs that have no constraint. -/
  declared : Declare.Derivation
  isLaidOut : Bool

namespace Matrix

/-- The order of the activities of a valid matrix. -/
def validOrder (m : Matrix) (allowed : Option (List String)) :
    Except ArtifactError (List String) :=
  (m.validate allowed).mapError .invalid

/-- The process graph of a valid matrix, as a graph and as XML. -/
def toBpmn (m : Matrix) (allowed : Option (List String)) (options : SynthesisOptions)
    (pretty : Bool) : Except ArtifactError (String × SynthesisResult) := do
  let order ← m.validOrder allowed
  let result ← (synthesize options (.ofMatrixWithOrder m order)).mapError .synthesis
  return (result.graph.serialize pretty, result)

/-- The Declare model of a valid matrix. -/
def toDeclare (m : Matrix) (allowed : Option (List String)) :
    Except ArtifactError (Declare.Model String) := do
  let _ ← m.validOrder allowed
  return (Declare.Derivation.ofMatrix m).model

end Matrix

namespace Artifacts

/-- The diagram after a layout step, and whether the step was carried out. -/
def applyLayout (xml : String) (layout : Option LayoutStep) : String × Bool :=
  match layout.bind (· xml) with
  | some laidOut => (laidOut, true)
  | none => (xml, false)

/-- Both artifacts of a valid matrix. Options that are given take the place of those that the
settings name. -/
def ofMatrix (m : Matrix) (allowed : Option (List String)) (settings : Settings)
    (options : Option SynthesisOptions) (layout : Option LayoutStep) :
    Except ArtifactError Artifacts := do
  let order ← m.validOrder allowed
  let relations := RelationSets.ofMatrixWithOrder m order
  let options ← match options with
    | some given => pure given
    | none => settings.synthesisOptions.mapError .badOption
  let synthesis ← (synthesize options relations).mapError .synthesis
  let (xml, isLaidOut) := applyLayout (synthesis.graph.serialize settings.prettyXml) layout
  return { order, relations, synthesis, xml, declared := Declare.Derivation.ofMatrix m, isLaidOut }

end Artifacts

end ActivityMatrix
