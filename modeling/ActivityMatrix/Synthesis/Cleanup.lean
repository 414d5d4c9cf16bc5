import ActivityMatrix.Synthesis.Draft

/-!
# Cleanup of gateways

Gateways are repaired one at a time until each split has one flow in and several out, and each join
several in and one out. A split with several flows in gets a join in front of it, a join with
several flows out a split behind it, and a gateway with too few flows is removed and bypassed. A
repair of the first two kinds makes one more gateway and one less gateway that is split and joined
at once, a repair of the third kind one gateway less; so the repairs come to an end.
-/

namespace ActivityMatrix

/-- What is to be done about a gateway. -/
inductive GatewayRepair where
  | joinBefore (kind : GatewayKind) (split : String)
  | splitAfter (kind : GatewayKind) (join : String)
  /-- Remove a gateway and connect its neighbours. -/
  | bypass (gateway : String)
  deriving DecidableEq, Repr, Inhabited

namespace ProcessGraph

variable (g : ProcessGraph)

def isOverloaded (node : Node) : Bool :=
  (node.isSplit && (g.incoming node.id).length > 1)
    || (node.isJoin && (g.outgoing node.id).length > 1)

/-- What is to be done about a node. -/
def repair? (node : Node) : Option GatewayRepair :=
  match node.kind with
  | .gateway kind =>
      if node.isSplit && (g.incoming node.id).length > 1 then some (.joinBefore kind node.id)
      else if node.isJoin && (g.outgoing node.id).length > 1 then some (.splitAfter kind node.id)
      else if (node.isSplit && (g.outgoing node.id).length < 2)
          || (node.isJoin && (g.incoming node.id).length < 2) then some (.bypass node.id)
      else none
  | _ => none

/-- The repair of the first gateway that needs one. -/
def nextRepair? : Option GatewayRepair :=
  g.nodes.findSome? g.repair?

/-- A number that every repair makes smaller. -/
def repairWork : Nat :=
  2 * (g.nodes.countP g.isOverloaded) + g.gateways.length

end ProcessGraph

namespace Drafting

def joinBeforePlace : String := "Join_Before"

def splitBehindPlace : String := "Split_After"

/-- Brings the flows into a split together in a join in front of it. -/
def insertJoinBefore (kind : GatewayKind) (split : String) : Drafting Unit := do
  let sources := (← graph).incoming split
  let join ← gatewayId kind joinBeforePlace split
  addGateway kind joinRole join
  sources.forM fun source => do
    let _ ← removeFlow source split
    let _ ← addFlow source join
  let _ ← addFlow join split

/-- Parts the flows out of a join in a split behind it. -/
def insertSplitAfter (kind : GatewayKind) (join : String) : Drafting Unit := do
  let targets := (← graph).outgoing join
  let split ← gatewayId kind splitBehindPlace join
  addGateway kind splitRole split
  targets.forM fun target => do
    let _ ← removeFlow join target
    let _ ← addFlow split target
  let _ ← addFlow join split

/-- Removes a gateway and connects the nodes before it with the nodes behind it. -/
def bypass (gateway : String) : Drafting Unit := do
  let g ← graph
  -- the neighbours are those of the graph with the gateway
  removeNode gateway
  (g.incoming gateway).forM fun source =>
    (g.outgoing gateway).forM fun target => do
      if (← graph).hasFlow source target then return
      if !(← addFlow source target) then diagnose (.lostFlow source target gateway)

def carryOut : GatewayRepair → Drafting Unit
  | .joinBefore kind split => insertJoinBefore kind split
  | .splitAfter kind join => insertSplitAfter kind join
  | .bypass gateway => bypass gateway

/-- Repairs gateways as long as one needs it, at most so many times. -/
def repairWithin : Nat → Drafting Unit
  | 0 => pure ()
  | fuel + 1 => do
      match (← graph).nextRepair? with
      | none => pure ()
      | some repair =>
          carryOut repair
          repairWithin fuel

def cleanup : Drafting Unit := do
  -- one step more than the work, so that the last one finds nothing to do
  repairWithin ((← graph).repairWork + 1)

end Drafting

end ActivityMatrix
