import ActivityMatrix.Document
import ActivityMatrix.ProcessGraph
import ActivityMatrix.Table

/-!
# Labelled directed graphs

Directed graphs whose nodes and edges carry labels. Process graphs and relation sets are converted to
such graphs, and process graphs are read back from them.

Such graphs come from a library, and the order in which it lists nodes and edges is assumed here:
nodes in the order in which they were first mentioned, an edge mentioning its source before its
target; edges by their sources in the order of the nodes, and those of one source in the order in
which they were added; and what is mentioned again stays where it is.
-/

namespace ActivityMatrix

/-- Nodes with labels and edges with labels, each node and each edge once. -/
structure LabelledDigraph (κ ν ε : Type) where
  nodes : Table κ ν := .empty
  edges : Table (κ × κ) ε := .empty

namespace LabelledDigraph

variable {κ ν ε : Type} [DecidableEq κ]

/-- Adds a node. The label of a node that is there already is merged with the new one. -/
def addNode (merge : ν → ν → ν) (g : LabelledDigraph κ ν ε) (node : κ) (label : ν) :
    LabelledDigraph κ ν ε :=
  { g with nodes := g.nodes.alter node fun present => (present.map (merge · label)).getD label }

/-- Adds an edge, its missing ends before it, the source first. -/
def addEdge (blank : ν) (g : LabelledDigraph κ ν ε) (edge : κ × κ) (label : ε) :
    LabelledDigraph κ ν ε :=
  let ends := [edge.1, edge.2]
  { nodes := ends.foldl (fun nodes node => nodes.alter node (·.getD blank)) g.nodes
    edges := g.edges.insert edge label }

/-- The edges as the library is assumed to list them: by their sources in the order of the nodes, and
those of one source in the order in which they were added. -/
def edgeList (g : LabelledDigraph κ ν ε) : List ((κ × κ) × ε) :=
  g.nodes.keys.flatMap fun source => g.edges.entries.filter fun edge => edge.1.1 = source

end LabelledDigraph

/-! ## Process graphs -/

namespace ProcessGraph

/-- What a labelled graph says of a node: parts may be missing. -/
structure NodeLabel where
  kind : Option Scalar := none
  /-- The name; a name that is stated to be absent is `some none`. -/
  name : Option (Option String) := none
  /-- The role; a role that is stated to be absent is `some none`. -/
  role : Option (Option String) := none
  deriving Repr, Inhabited

namespace NodeLabel

/-- The label with the parts of a later one in place of its own. -/
def merge (earlier later : NodeLabel) : NodeLabel :=
  ⟨later.kind.or earlier.kind, later.name.or earlier.name, later.role.or earlier.role⟩

def ofNode (node : Node) : NodeLabel :=
  ⟨some (.text node.kind.tag), some node.name, some node.role⟩

end NodeLabel

/-- The graph as a labelled graph: flows are labelled with their ids. -/
def toLabelled (g : ProcessGraph) : LabelledDigraph String NodeLabel String :=
  let nodes := g.nodes.foldl
    (fun h node => h.addNode NodeLabel.merge node.id (NodeLabel.ofNode node)) {}
  g.flows.foldl (fun h flow => h.addEdge {} flow (flowId flow)) nodes

/-- What is wrong with a word that is the name of no kind of node. -/
def unknownKindMessage (word : String) : String :=
  s!"{word} is not a valid NodeKind"

/-- The node that a label describes. Without a stated kind it is a task, without a stated name it is
called by its id. -/
def nodeOfLabel (id : String) (label : NodeLabel) : Except String Node :=
  let stated := label.kind.getD (.text NodeKind.task.tag)
  let kind? := match stated with
    | .text tag => NodeKind.ofTag? tag
    | _ => none
  match kind? with
  | some kind => .ok ⟨id, kind, label.name.getD (some id), label.role.join⟩
  | none => .error (unknownKindMessage stated.display)

/-- The graph with a node added, unchanged if there is a node with its id. -/
def withNode (g : ProcessGraph) (node : Node) : ProcessGraph :=
  ((g.addNode node).map Prod.snd).toOption.getD g

/-- The graph with a flow added, unchanged if the flow may not be added. -/
def withFlow (g : ProcessGraph) (source target : String) : ProcessGraph :=
  ((g.addFlow source target).map Prod.snd).toOption.getD g

/-- The graph that a labelled graph describes, whose nodes go by the given names. Edges that may not
be added as flows are left out. -/
def ofLabelled {κ ε : Type} [DecidableEq κ] (name : κ → String)
    (h : LabelledDigraph κ NodeLabel ε) : Except String ProcessGraph := do
  let nodes ← h.nodes.entries.mapM fun (key, label) => nodeOfLabel (name key) label
  return h.edgeList.foldl (fun g edge => g.withFlow (name edge.1.1) (name edge.1.2))
    (nodes.foldl withNode {})

end ProcessGraph

/-! ## Relation sets -/

namespace RelationSets

/-- The precedences as a labelled graph over the ordered activities; an edge is labelled with
whether it is immediate. -/
def toLabelled (r : RelationSets) (directOnly : Bool) : LabelledDigraph String Unit Bool :=
  let nodes := r.order.foldl (fun h activity => h.addNode (fun a _ => a) activity ()) {}
  (if directOnly then r.direct else r.chains).foldl
    (fun h edge => h.addEdge () edge (r.direct.contains edge)) nodes

end RelationSets

end ActivityMatrix
