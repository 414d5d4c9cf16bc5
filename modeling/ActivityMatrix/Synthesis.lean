import ActivityMatrix.Synthesis.Cleanup
import ActivityMatrix.Synthesis.Ends
import ActivityMatrix.Synthesis.Stitching
import ActivityMatrix.Violation

/-!
# Synthesis of process graphs

From relation sets to a process graph, phase by phase: the nodes, what follows the start event, what
follows every other activity, the activities and flows left over, and the two ends, with a cleanup
of the gateways after the stitching and at the end. The result is frozen, and comes with the log of
the steps.
-/

namespace ActivityMatrix

/-- A process graph with what is to be said about it. -/
structure SynthesisResult where
  graph : ProcessGraph
  diagnostics : List Diagnostic
  levels : Levels
  /-- The steps, each with the graph after it. -/
  log : List LogEntry
  deriving Repr, Inhabited

namespace SynthesisResult

/-- Whether everything could be done. -/
def isComplete (result : SynthesisResult) : Bool :=
  result.diagnostics.isEmpty

end SynthesisResult

/-- Why there is no process graph. -/
inductive SynthesisError where
  | cyclic (path : List String)
  | fault (fault : SynthesisFault)
  deriving Repr, Inhabited

def SynthesisError.message : SynthesisError → String
  | cyclic path => (Violation.cycle path).message
  | fault stop => stop.message

namespace Synthesis

/-- The plan for relations under options, or a cycle. -/
def plan (options : SynthesisOptions) (relations : RelationSets) :
    Except (List String) SynthesisPlan := do
  let levels ← Levels.compute options.levelStrategy relations.activities relations.chains
  return { relations, levels, options }

def phases (plan : SynthesisPlan) : Drafting Unit := do
  Drafting.addNodes plan
  Drafting.synthesizeStart plan
  Drafting.record .started
  Drafting.expandAll plan
  Drafting.attachOrphans plan
  Drafting.record .orphansAttached
  Drafting.resolvePending plan
  Drafting.record .pendingResolved
  Drafting.cleanup
  Drafting.record .cleanedUp
  Drafting.attachHeads plan
  Drafting.record .headsAttached
  Drafting.synthesizeEnd plan
  Drafting.record .endSynthesized
  Drafting.cleanup
  Drafting.record .cleanedUp

/-- The draft that a synthesis starts from: an empty graph that is to stay acyclic. -/
def blankDraft : Draft := { graph := { acyclic := true } }

end Synthesis

/-- The process graph that shows relations. -/
def synthesize (options : SynthesisOptions) (relations : RelationSets) :
    Except SynthesisError SynthesisResult := do
  let plan ← (Synthesis.plan options relations).mapError .cyclic
  match (Synthesis.phases plan).run Synthesis.blankDraft with
  | .ok _ draft => return ⟨draft.graph.freeze, draft.diagnostics, plan.levels, draft.log⟩
  | .error fault _ => throw (.fault fault)

end ActivityMatrix
