import ActivityMatrix.Synthesis.Convergence
import ActivityMatrix.Synthesis.Expansion

/-!
# The ends of a process

Every node that is left without an incoming flow is put behind the start event, and every node that
is left without an outgoing flow in front of the end event, through a gateway where there are
several of them.
-/

namespace ActivityMatrix

namespace ProcessGraph

/-- The nodes other than the two events without an incoming flow. -/
def openHeads (g : ProcessGraph) : List String :=
  g.ids.filter fun id => id != startEventId && id != endEventId && (g.incoming id).isEmpty

/-- The nodes other than the two events without an outgoing flow. -/
def openTails (g : ProcessGraph) : List String :=
  g.ids.filter fun id => id != startEventId && id != endEventId && (g.outgoing id).isEmpty

end ProcessGraph

namespace Drafting

def endAnchor : String := "End"

/-- Puts every node without an incoming flow behind the start event. -/
def attachHeads (plan : SynthesisPlan) : Drafting Unit := do
  let g ← graph
  let heads := g.openHeads
  if heads.isEmpty then return
  (heads.filter g.isTask).forM fun head => diagnose (.detached head)
  let current := g.outgoing startEventId
  -- what follows the start event already shares the split with the heads
  match current ++ heads with
  | [target] =>
      let _ ← addFlow startEventId target
  | targets =>
      let kind := plan.relations.gatewayKind (targets.filter g.isTask)
      let split ← gatewayId kind splitPlace startEventId
      addGateway kind splitRole split
      current.forM fun target => do
        let _ ← removeFlow startEventId target
      let _ ← addFlow startEventId split
      targets.forM fun target => do
        let _ ← addFlow split target

/-- Puts every node without an outgoing flow in front of the end event. -/
def synthesizeEnd (plan : SynthesisPlan) : Drafting Unit := do
  let g ← graph
  let tails := g.openTails
  if tails.isEmpty then
    -- nothing lies between the events
    if (g.outgoing startEventId).isEmpty then
      let _ ← addFlow startEventId endEventId
    return
  let existing := g.incoming endEventId
  match existing ++ tails with
  | [feeder] =>
      let _ ← addFlow feeder endEventId
  | feeders =>
      let kind := plan.relations.gatewayKind (feeders.filter g.isTask)
      let join ← gatewayId kind joinPlace endAnchor
      addGateway kind joinRole join
      existing.forM fun feeder => do
        let _ ← removeFlow feeder endEventId
      feeders.forM fun feeder => do
        let _ ← addFlow feeder join
      let _ ← addFlow join endEventId

end Drafting

end ActivityMatrix
