import ActivityMatrix.Digraph.Reachability
import ActivityMatrix.Gateway

/-!
# Process graphs

Nodes and the sequence flows between them, both in the order in which they were added. A flow is
accepted only if it is new, joins two different nodes of the graph, gives no task a second incoming
or outgoing flow, and, in a graph that is to stay acyclic, closes no cycle. A frozen graph refuses
every change. The neighbours of a node are read off the flows, so they cannot disagree with them.
-/

namespace ActivityMatrix

/-- The kinds of nodes of a process graph. -/
inductive NodeKind where
  | task
  | startEvent
  | endEvent
  | gateway (kind : GatewayKind)
  deriving DecidableEq, Repr, Inhabited

namespace NodeKind

def tag : NodeKind → String
  | task => "task"
  | startEvent => "startEvent"
  | endEvent => "endEvent"
  | gateway kind => kind.tag

def all : List NodeKind := [task, startEvent, endEvent] ++ GatewayKind.all.map gateway

def ofTag? (tag : String) : Option NodeKind :=
  all.find? (·.tag == tag)

def isGateway : NodeKind → Bool
  | gateway _ => true
  | _ => false

end NodeKind

/-- The role of a gateway that parts flows. -/
def splitRole : String := "split"

/-- The role of a gateway that brings flows together. -/
def joinRole : String := "join"

structure Node where
  id : String
  kind : NodeKind
  name : Option String := some ""
  role : Option String := none
  deriving DecidableEq, Repr, Inhabited

namespace Node

def isGateway (node : Node) : Bool := node.kind.isGateway

/-- Whether the node is a gateway that parts flows. -/
def isSplit (node : Node) : Bool := node.isGateway && node.role == some splitRole

def isJoin (node : Node) : Bool := node.isGateway && node.role == some joinRole

def isTask (node : Node) : Bool := node.kind == .task

end Node

/-- A sequence flow, from its source to its target. -/
abbrev Flow := String × String

/-- What a flow is referred to by. -/
def flowId (flow : Flow) : String :=
  "Flow_" ++ flow.1 ++ "_" ++ flow.2

/-- The node from which every process starts. -/
def startEventId : String := "StartEvent_1"

/-- The node in which every process ends. -/
def endEventId : String := "EndEvent_1"

/-- Why a graph refuses a change. -/
inductive GraphError where
  | frozen
  deriving DecidableEq, Repr, Inhabited

namespace GraphError

def message : GraphError → String
  | frozen => "ProcessGraph is frozen"

end GraphError

/-- Nodes and the flows between them. -/
structure ProcessGraph where
  /-- Whether flows that close a cycle are refused. -/
  acyclic : Bool := false
  /-- Whether all changes are refused. -/
  frozen : Bool := false
  /-- The nodes in the order in which they were added. -/
  nodes : List Node := []
  /-- The flows in the order in which they were added. -/
  flows : List Flow := []
  deriving DecidableEq, Repr, Inhabited

namespace ProcessGraph

variable (g : ProcessGraph)

/-! ## Questions -/

def node? (id : String) : Option Node :=
  g.nodes.find? (·.id == id)

def contains (id : String) : Bool :=
  g.nodes.any (·.id == id)

def ids : List String :=
  g.nodes.map Node.id

def hasFlow (source target : String) : Bool :=
  g.flows.contains (source, target)

/-- The targets of the flows that leave a node. -/
def outgoing (id : String) : List String :=
  Digraph.successors g.flows id

/-- The sources of the flows that enter a node. -/
def incoming (id : String) : List String :=
  Digraph.predecessors g.flows id

/-- The flows that leave a node. -/
def outgoingFlows (id : String) : List Flow :=
  (g.outgoing id).map (id, ·)

/-- The flows that enter a node. -/
def incomingFlows (id : String) : List Flow :=
  (g.incoming id).map (·, id)

def gateways : List Node := g.nodes.filter Node.isGateway

def splits : List Node := g.nodes.filter Node.isSplit

def joins : List Node := g.nodes.filter Node.isJoin

def tasks : List Node := g.nodes.filter Node.isTask

/-- The nodes other than a node itself that flows lead to from it. -/
def reachableFrom (id : String) : List String :=
  Digraph.reachable g.flows id

/-- Whether flows lead from a node to another one. -/
def canReach (source target : String) : Bool :=
  Digraph.canReach g.flows source target

def isTask (id : String) : Bool :=
  (g.node? id).any Node.isTask

def isJoin (id : String) : Bool :=
  (g.node? id).any Node.isJoin

/-- Whether a flow may be added. -/
def canAddFlow (source target : String) : Bool :=
  g.contains source && g.contains target && source != target && !g.hasFlow source target
    && !(g.isTask source && !(g.outgoing source).isEmpty)
    && !(g.isTask target && !(g.incoming target).isEmpty)
    && !(g.acyclic && g.canReach target source)

def summary : String :=
  s!"ProcessGraph(nodes={g.nodes.length}, flows={g.flows.length})"

/-! ## Changes -/

/-- A change that a frozen graph refuses. -/
def unlessFrozen {α : Type} (change : α × ProcessGraph) : Except GraphError (α × ProcessGraph) :=
  if g.frozen then .error .frozen else .ok change

/-- The graph that refuses all further changes. -/
def freeze : ProcessGraph := { g with frozen := true }

/-- Adds a node. If there is a node with its id already, that node stays and is the answer. -/
def addNode (node : Node) : Except GraphError (Node × ProcessGraph) :=
  g.unlessFrozen <| match g.node? node.id with
    | some present => (present, g)
    | none => (node, { g with nodes := g.nodes ++ [node] })

/-- Removes a node with all flows that touch it. -/
def removeNode (id : String) : Except GraphError (Unit × ProcessGraph) :=
  g.unlessFrozen ((), { g with
    nodes := g.nodes.filter (·.id != id)
    flows := g.flows.filter fun flow => flow.1 != id && flow.2 != id })

/-- Adds a flow if it may be added, and says whether it was. -/
def addFlow (source target : String) : Except GraphError (Bool × ProcessGraph) :=
  g.unlessFrozen <|
    if g.canAddFlow source target then (true, { g with flows := g.flows ++ [(source, target)] })
    else (false, g)

/-- Removes a flow, and says whether it was there. -/
def removeFlow (source target : String) : Except GraphError (Bool × ProcessGraph) :=
  g.unlessFrozen
    (g.hasFlow source target, { g with flows := g.flows.filter (· != (source, target)) })

end ProcessGraph

end ActivityMatrix
