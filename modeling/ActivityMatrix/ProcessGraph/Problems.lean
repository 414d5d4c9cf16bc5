import ActivityMatrix.Digraph.Cycle
import ActivityMatrix.ProcessGraph
import ActivityMatrix.Text.Quoted

/-!
# Structural problems of process graphs

What keeps a graph from being a well-formed process: splits need one flow in and several out, joins
several in and one out, and tasks have at most one of each; there is no cycle; and if there is a
start and an end event, every node lies on a path from the one to the other.
-/

namespace ActivityMatrix

/-- A structural fault of a process graph. -/
inductive StructuralProblem where
  /-- A split has not one flow in, or fewer than two out. -/
  | badSplit (id : String) (incoming outgoing : Nat)
  /-- A join has fewer than two flows in, or not one out. -/
  | badJoin (id : String) (incoming outgoing : Nat)
  /-- A task has several flows in or out. -/
  | badTask (id : String) (incoming outgoing : Nat)
  | cycle (path : List String)
  | notReachable (id : String)
  | deadEnd (id : String)
  deriving DecidableEq, Repr, Inhabited

namespace StructuralProblem

/-- Degrees of a node in words. -/
def degrees (role id : String) (incoming outgoing : Nat) : String :=
  s!"{role} {id} has {incoming} incoming / {outgoing} outgoing"

def flowText (flow : Flow) : String :=
  "(" ++ Text.quoted flow.1 ++ ", " ++ Text.quoted flow.2 ++ ")"

def message : StructuralProblem → String
  | badSplit id incoming outgoing => degrees "split" id incoming outgoing
  | badJoin id incoming outgoing => degrees "join" id incoming outgoing
  | badTask id incoming outgoing => degrees "task" id incoming outgoing
  | cycle path => "graph has a cycle: " ++ Text.bracketed flowText (Digraph.pathEdges path)
  | notReachable id => s!"{id} is not reachable from {startEventId}"
  | deadEnd id => s!"{id} does not reach {endEventId}"

end StructuralProblem

namespace ProcessGraph

variable (g : ProcessGraph)

/-- What is wrong with the degrees of a node. -/
def degreeProblem? (node : Node) : Option StructuralProblem :=
  let incoming := (g.incoming node.id).length
  let outgoing := (g.outgoing node.id).length
  if node.isSplit then
    if incoming = 1 ∧ 2 ≤ outgoing then none else some (.badSplit node.id incoming outgoing)
  else if node.isJoin then
    if 2 ≤ incoming ∧ outgoing = 1 then none else some (.badJoin node.id incoming outgoing)
  else if node.isTask then
    if incoming ≤ 1 ∧ outgoing ≤ 1 then none else some (.badTask node.id incoming outgoing)
  else none

/-- The first cycle that a search from the nodes in order closes. -/
def cycle? : Option (List String) :=
  Digraph.findCycle g.outgoing g.ids

/-- What is wrong with the connection of the nodes with the two events, if both are there. -/
def connectionProblems : List StructuralProblem :=
  if g.contains startEventId && g.contains endEventId then
    let fromStart := startEventId :: g.reachableFrom startEventId
    -- nodes from which the end event can be reached, searched backwards from it
    let toEnd := endEventId :: Digraph.reachable (Digraph.converse g.flows) endEventId
    g.ids.filterMap fun id =>
      if !fromStart.contains id then some (.notReachable id)
      else if !toEnd.contains id then some (.deadEnd id)
      else none
  else []

/-- Everything that keeps the graph from being a well-formed process. -/
def structuralProblems : List StructuralProblem :=
  g.nodes.filterMap g.degreeProblem?
    ++ (g.cycle?.map StructuralProblem.cycle).toList
    ++ g.connectionProblems

end ProcessGraph

end ActivityMatrix
