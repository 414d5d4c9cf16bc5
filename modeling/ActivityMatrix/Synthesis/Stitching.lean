import ActivityMatrix.Synthesis.Expansion

/-!
# Stitching

Activities that were left without an incoming flow are attached behind the last activity that
precedes them. Flows that the graph refused are merged with the flows that are there already,
through a join in front of their common target.
-/

namespace ActivityMatrix

namespace ProcessGraph

/-- The gateway that a node flows straight into, if it has a single output, with that output. -/
def gatewayAfter? (g : ProcessGraph) (id : String) : Option (String × String) :=
  match g.outgoing id with
  | [next] =>
      if (g.node? next).any Node.isGateway then
        match g.outgoing next with
        | [successor] => some (next, successor)
        | _ => none
      else none
  | _ => none

/-- What becomes of a flow that was refused. -/
inductive PendingFate where
  /-- The flow is not needed any more, or can never be. -/
  | settled
  /-- The flow is dropped, and that is reported. -/
  | dropped (reason : Diagnostic)
  | mergeable
  deriving DecidableEq, Repr, Inhabited

/-- What becomes of a flow that was refused: it is settled if a path connects its ends or an end is
missing, and dropped if its source is closed or lies behind its target. -/
def pendingFate (g : ProcessGraph) (flow : Flow) : PendingFate :=
  let (source, target) := flow
  if g.hasFlow source target || g.canReach source target then .settled
  else if !g.contains target then .settled
  else match g.node? source with
    | none => .settled
    | some node =>
        -- a split may be given one more flow out, a task or a join may not
        if (node.isTask || node.isJoin) && !(g.outgoing source).isEmpty then
          .dropped (.sourceTaken source target)
        else if g.canReach target source then .dropped (.leadsBack source target)
        else .mergeable

/-- The flows that are to be merged: each target with its sources. -/
def mergeGroups (g : ProcessGraph) (pending : List Flow) : List (String × List String) :=
  groupInOrder (distinct (pending.filter (g.pendingFate · == .mergeable)) |>.map Prod.swap)

/-- The reports on the flows that are dropped. -/
def dropReports (g : ProcessGraph) (pending : List Flow) : List Diagnostic :=
  pending.filterMap fun flow => match g.pendingFate flow with
    | .dropped reason => some reason
    | _ => none

end ProcessGraph

namespace Drafting

/-! ## Activities left over -/

def splitAfterPlace : String := "Split_After"

/-- Leads the single output of a gateway through a new split that also feeds the given members. -/
def branchOff (plan : SynthesisPlan) (gateway successor : String) (members : List String) :
    Drafting Unit := do
  -- the kind is inferred from activities only, and the successor may be a gateway
  let targets := (if (← graph).isTask successor then [successor] else []) ++ members
  let kind := plan.relations.gatewayKind targets
  let split ← gatewayId kind splitAfterPlace gateway
  addGateway kind splitRole split
  let _ ← removeFlow gateway successor
  let _ ← addFlow gateway split
  let _ ← addFlow split successor
  members.forM fun member => do
    expand plan member
    let _ ← connect split member

/-- Attaches members behind an anchor that has no outgoing flow. -/
def attachToOpen (plan : SynthesisPlan) (anchor : String) (members : List String) :
    Drafting Unit :=
  match members with
  | [member] => do
      let _ ← connect anchor member
      expand plan member
  | _ => splitJoin plan (expand plan) anchor anchor (members.map ([·]))
      (plan.relations.gatewayKind members)

/-- Attaches members behind their anchor, unless all of them have an incoming flow or all of them
start the process. -/
def attachGroup (plan : SynthesisPlan) (anchor : Option String) (members : List String) :
    Drafting Unit := do
  let g ← graph
  let starts := (← get).startCandidates
  if members.all (fun m => !(g.incoming m).isEmpty) || members.all (starts.contains ·) then return
  match anchor with
  | none => diagnose (.noCommonPredecessor members)
  | some anchor =>
      if (g.outgoing anchor).isEmpty then attachToOpen plan anchor members
      else match g.gatewayAfter? anchor with
        | none => diagnose (.noOpenGateway anchor members)
        | some (gateway, successor) => branchOff plan gateway successor members

/-- Attaches the activities that have no incoming flow and do not start the process, grouped by the
last activity that precedes them. -/
def attachOrphans (plan : SynthesisPlan) : Drafting Unit := do
  let draft ← get
  let orphans := plan.relations.order.filter fun a =>
    (draft.graph.incoming a).isEmpty && !draft.startCandidates.contains a
  let anchored := orphans.map fun a => (plan.relations.latestCommonPredecessor [a], a)
  (groupInOrder anchored).forM fun (anchor, members) => attachGroup plan anchor members

/-! ## Refused flows -/

def joinAfterPlace : String := "Join_After"

def feed (join feeder : String) : Drafting Unit := do
  if !(← addFlow feeder join) then diagnose (.cannotFeed feeder join)

/-- Merges flows into a target with the flows that enter it already. Sources that earlier merges
have put behind the target are passed over. -/
def mergeInto (plan : SynthesisPlan) (target : String) (sources : List String) :
    Drafting Unit := do
  let g ← graph
  (sources.filter (g.canReach target ·)).forM fun source => record (.passedOver source target)
  let existing := g.incoming target
  match existing, sources.filter (!g.canReach target ·) with
  | _, [] => pure ()
  | [], [source] =>
      let _ ← addFlow source target
  | _, sources =>
      let feeders := existing ++ sources
      let kind := plan.relations.gatewayKind (feeders.filter g.isTask)
      -- a join behind something is called by that, any other one by its target
      let join ← match existing with
        | first :: _ => gatewayId kind joinAfterPlace first
        | [] => gatewayId kind joinPlace target
      addGateway kind joinRole join
      existing.forM fun feeder => do
        let _ ← removeFlow feeder target
      feeders.forM (feed join)
      let _ ← addFlow join target

/-- Merges the flows that were refused, or reports why they are dropped. -/
def resolvePending (plan : SynthesisPlan) : Drafting Unit := do
  let draft ← get
  let g := draft.graph
  (g.dropReports draft.pending).forM diagnose
  -- the list is emptied first: a flow that is refused again is not kept again
  modify fun draft => { draft with pending := [] }
  (g.mergeGroups draft.pending).forM fun (target, sources) => mergeInto plan target sources

end Drafting

end ActivityMatrix
