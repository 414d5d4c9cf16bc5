import ActivityMatrix.Digraph.NeighbourIndex
import ActivityMatrix.ProcessGraph

/-!
# Process graphs with indexed neighbours

A process graph as it is stored: a table of nodes, a table of flows, and for each node the list of its
targets and the list of its sources, so that neighbours are looked up and not searched for. The four
tables say the same thing more than once, and every change has to keep them in step: a new flow goes to
the end of two lists, a flow that is removed is taken out of two lists, and a node is removed after all
flows that touch it. Where the tables did not fit together, a lookup would fail, and a change would stop
halfway with what it has changed so far.
-/

namespace ActivityMatrix

/-- Why an operation on an indexed graph stops. -/
inductive IndexFault where
  | frozen
  /-- A node has no list of neighbours. -/
  | missingNode (id : String)
  /-- A neighbour is not listed. -/
  | missingNeighbour (id : String)
  deriving DecidableEq, Repr, Inhabited

namespace NeighbourIndex

/-- The list of a node, or a stop. -/
def list (index : NeighbourIndex) (id : String) : Except IndexFault (List String) :=
  match index.find? id with
  | some listed => .ok listed
  | none => .error (.missingNode id)

/-- Lists a further neighbour of a node. -/
def enter (index : NeighbourIndex) (id neighbour : String) : Except IndexFault NeighbourIndex := do
  return index.insert id ((← index.list id) ++ [neighbour])

/-- Takes the first entry of a neighbour out of the list of a node. -/
def withdraw (index : NeighbourIndex) (id neighbour : String) : Except IndexFault NeighbourIndex := do
  let listed ← index.list id
  if neighbour ∈ listed then return index.insert id (listed.erase neighbour)
  throw (.missingNeighbour neighbour)

end NeighbourIndex

/-- A process graph as it is stored. -/
structure IndexedGraph where
  acyclic : Bool := false
  frozen : Bool := false
  nodes : Table String Node := .empty
  flows : Table (String × String) Flow := .empty
  /-- The targets of the flows that leave each node. -/
  outgoing : NeighbourIndex := .empty
  /-- The sources of the flows that enter each node. -/
  incoming : NeighbourIndex := .empty
  deriving DecidableEq, Inhabited

namespace IndexedGraph

/-- The nodes other than a node itself that flows lead to from it. -/
def reachableFrom (g : IndexedGraph) (id : String) : List String :=
  (g.outgoing.search [] (g.outgoing.neighbours id)).filter (· ≠ id)

def canReach (g : IndexedGraph) (source target : String) : Bool :=
  (g.reachableFrom source).contains target

/-- The graph without what the index repeats. -/
def toGraph (g : IndexedGraph) : ProcessGraph where
  acyclic := g.acyclic
  frozen := g.frozen
  nodes := g.nodes.values
  flows := g.flows.values

/-- Operations on an indexed graph. -/
abbrev Indexing := EStateM IndexFault IndexedGraph

/-! ## Operations -/

def checkMutable : Indexing Unit := do
  if (← get).frozen then throw .frozen

/-- Changes the targets. -/
def changeOutgoing (change : NeighbourIndex → Except IndexFault NeighbourIndex) : Indexing Unit := do
  match change (← get).outgoing with
  | .ok outgoing => modify fun g => { g with outgoing }
  | .error fault => throw fault

def changeIncoming (change : NeighbourIndex → Except IndexFault NeighbourIndex) : Indexing Unit := do
  match change (← get).incoming with
  | .ok incoming => modify fun g => { g with incoming }
  | .error fault => throw fault

/-- Adds a node. If there is a node with its id already, that node stays and is the answer. -/
def addNode (node : Node) : Indexing Node := do
  checkMutable
  let g ← get
  match g.nodes.find? node.id with
  | some present => return present
  | none =>
      set { g with
        nodes := g.nodes.insert node.id node
        outgoing := g.outgoing.insert node.id []
        incoming := g.incoming.insert node.id [] }
      return node

/-- Whether a node is a task for which an index lists a neighbour already. -/
def isTaken (index : NeighbourIndex) (node : Node) (id : String) : Except IndexFault Bool := do
  if !node.isTask then return false
  return !(← index.list id).isEmpty

def canAddFlow (g : IndexedGraph) (source target : String) : Except IndexFault Bool := do
  match g.nodes.find? source, g.nodes.find? target with
  | some before, some behind =>
      if source = target || g.flows.contains (source, target) then return false
      if ← isTaken g.outgoing before source then return false
      if ← isTaken g.incoming behind target then return false
      return !(g.acyclic && g.canReach target source)
  | _, _ => return false

/-- Adds a flow if it may be added, and says whether it was. -/
def addFlow (source target : String) : Indexing Bool := do
  checkMutable
  match (← get).canAddFlow source target with
  | .error fault => throw fault
  | .ok false => return false
  | .ok true =>
      modify fun g => { g with flows := g.flows.insert (source, target) (source, target) }
      changeOutgoing (·.enter source target)
      changeIncoming (·.enter target source)
      return true

/-- Removes a flow, and says whether it was there. -/
def removeFlow (source target : String) : Indexing Bool := do
  checkMutable
  if !(← get).flows.contains (source, target) then return false
  modify fun g => { g with flows := g.flows.erase (source, target) }
  -- the flow is gone by now even if an index turns out to lack it
  changeOutgoing (·.withdraw source target)
  changeIncoming (·.withdraw target source)
  return true

/-- Removes a node after all flows that leave or enter it. -/
def removeNode (id : String) : Indexing Unit := do
  checkMutable
  ((← get).outgoing.neighbours id).forM fun target => do
    let _ ← removeFlow id target
  ((← get).incoming.neighbours id).forM fun source => do
    let _ ← removeFlow source id
  modify fun g => { g with
    nodes := g.nodes.erase id
    outgoing := g.outgoing.erase id
    incoming := g.incoming.erase id }

def freeze : Indexing Unit :=
  modify fun g => { g with frozen := true }

end IndexedGraph

/-! ## Calls -/

/-- The calls that change a graph. -/
inductive GraphCall where
  | addNode (node : Node)
  | removeNode (id : String)
  | addFlow (source target : String)
  | removeFlow (source target : String)
  | freeze
  deriving DecidableEq, Repr, Inhabited

/-- What a call answers. -/
inductive CallAnswer where
  | done
  | node (node : Node)
  | changed (whether : Bool)
  deriving DecidableEq, Repr, Inhabited

/-- What a call does to a graph without an index. -/
def GraphCall.on (g : ProcessGraph) : GraphCall → Except GraphError (CallAnswer × ProcessGraph)
  | .addNode node => (g.addNode node).map fun (present, changed) => (.node present, changed)
  | .removeNode id => (g.removeNode id).map fun (_, changed) => (.done, changed)
  | .addFlow source target =>
      (g.addFlow source target).map fun (whether, changed) => (.changed whether, changed)
  | .removeFlow source target =>
      (g.removeFlow source target).map fun (whether, changed) => (.changed whether, changed)
  | .freeze => .ok (.done, g.freeze)

namespace IndexedGraph

def perform : GraphCall → Indexing CallAnswer
  | .addNode node => return .node (← addNode node)
  | .removeNode id => do
      removeNode id
      return .done
  | .addFlow source target => return .changed (← addFlow source target)
  | .removeFlow source target => return .changed (← removeFlow source target)
  | .freeze => do
      freeze
      return .done

/-- The graph after a call, whether the call stopped or not. -/
def after (g : IndexedGraph) (call : GraphCall) : IndexedGraph :=
  match (perform call).run g with
  | .ok _ changed => changed
  | .error _ changed => changed

def afterAll (g : IndexedGraph) (calls : List GraphCall) : IndexedGraph :=
  calls.foldl after g

end IndexedGraph

end ActivityMatrix
