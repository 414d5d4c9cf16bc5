import ActivityMatrix.Digraph.Cycle
import ActivityMatrix.Digraph.Reachability
import ActivityMatrix.Sorting
import ActivityMatrix.Table

/-!
# Topological order

Names are put in an order that respects edges by taking them one by one from a sorted frontier of names
that no edge enters. A name that is taken uses up the edges that leave it, and its successors that no
edge enters any more are put into the frontier at their places. Names that never come to the frontier
contain a cycle, and one such cycle is then the answer. Names that only edges mention take part like the
listed ones, and repeated names and edges count once.
-/

namespace ActivityMatrix.Digraph

/-- The listed names and the ends of the edges, each at its first mention. -/
def mentionedNodes (listed : List String) (edges : List (String × String)) : List String :=
  distinct (listed ++ edges.flatMap fun edge => [edge.1, edge.2])

/-- Whether an edge enters a name. -/
def isEntered (edges : List (String × String)) (node : String) : Bool :=
  !(predecessors edges node).isEmpty

/-- The successors of a name in ascending order, each once. -/
def sortedSuccessors (edges : List (String × String)) (node : String) : List String :=
  sortNames (distinct (successors edges node))

/-- Taking each successor of a name once gives no more names than edges leave the name. -/
theorem length_sortedSuccessors_le (edges : List (String × String)) (node : String) :
    (sortedSuccessors edges node).length ≤ (successors edges node).length :=
  Nat.le_trans (Nat.le_of_eq (length_sortBy _ _)) (length_distinct_le _)

/-- The successors of a name that no edge enters when the edges leaving the name are used up, in
ascending order. -/
def freedBy (edges : List (String × String)) (node : String) : List String :=
  (sortedSuccessors edges node).filter (!isEntered (notLeaving edges node) ·)

/-- Using up the edges that leave a name frees no more names than there were such edges. -/
theorem length_freedBy_add_le (edges : List (String × String)) (node : String) :
    (freedBy edges node).length + (notLeaving edges node).length ≤ edges.length := by
  have hedges := length_successors_add edges node
  have hnext := length_sortedSuccessors_le edges node
  have hfreed := List.length_filter_le (!isEntered (notLeaving edges node) ·)
    (sortedSuccessors edges node)
  unfold freedBy
  omega

/-- Takes the names of a sorted frontier, the first one first, together with those that come to it on
the way. -/
def drain (edges : List (String × String)) : List String → List String
  | [] => []
  | node :: frontier =>
      node :: drain (notLeaving edges node) (insertAllSorted nameLE frontier (freedBy edges node))
termination_by frontier => edges.length + frontier.length
decreasing_by
  have := length_freedBy_add_le edges node
  rw [length_insertAllSorted, List.length_cons]
  omega

/-- A cycle among names, searched in ascending order of the names. -/
def cycleAmong (next : String → List String) (nodes : List String) : Option (List String) :=
  findCycle next (sortNames nodes)

/-- All names in an order that respects the edges, at every place the least name possible; or, if
there is no such order, a cycle. -/
def topologicalOrder (listed : List String) (edges : List (String × String)) :
    Except (List String) (List String) :=
  let nodes := mentionedNodes listed edges
  let order := drain edges (sortNames (nodes.filter (!isEntered edges ·)))
  if order.length < nodes.length then
    .error ((cycleAmong (sortedSuccessors edges) (nodes.filter (· ∉ order))).getD [])
  else .ok order

end ActivityMatrix.Digraph
