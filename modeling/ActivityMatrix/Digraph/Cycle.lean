import ActivityMatrix.Table

/-!
# Finding a cycle

A depth-first search over listed nodes. Its state is the path from the root to the current node,
each node with the successors that are still to be looked at, and the nodes not met so far. A
successor on the path closes a cycle; a successor not met so far extends the path; any other one is
finished or not listed, and is passed over.
-/

namespace ActivityMatrix.Digraph

variable {α : Type} [DecidableEq α]

/-- The nodes of a path whose last node comes first, from `node` on, with `node` again at the
end. -/
def closedPath (node : α) (path : List (α × List α)) : List α :=
  (path.map Prod.fst).reverse.dropWhile (· ≠ node) ++ [node]

/-- How many successors on a path are still to be looked at, one more for each node. -/
def pathWork : List (α × List α) → Nat
  | [] => 0
  | (_, others) :: rest => others.length + 1 + pathWork rest

/-- Searches on from a path whose last node comes first. The result is a cycle or the nodes that
were not met. -/
def searchFrom (next : α → List α) (unmet : List α) (path : List (α × List α)) :
    Except (List α) (List α) :=
  match path with
  | [] => .ok unmet
  | (_, []) :: rest => searchFrom next unmet rest
  | (node, successor :: others) :: rest =>
      if successor ∈ path.map Prod.fst then .error (closedPath successor path)
      else if successor ∈ unmet then
        searchFrom next (unmet.erase successor)
          ((successor, next successor) :: (node, others) :: rest)
      -- met before, and no cycle was closed from there
      else searchFrom next unmet ((node, others) :: rest)
termination_by (unmet.length, pathWork path)
decreasing_by
  · simp [pathWork, Prod.lex_def]
  · have : 0 < unmet.length := List.length_pos_of_mem ‹_›
    simp [Prod.lex_def, List.length_erase_of_mem ‹_›]
    omega
  · simp [pathWork, Prod.lex_def]

/-- Searches from one root after another, passing over the roots that were met before. -/
def searchRoots (next : α → List α) : List α → List α → Option (List α)
  | [], _ => none
  | root :: roots, unmet =>
      if root ∈ unmet then
        match searchFrom next (unmet.erase root) [(root, next root)] with
        | .error cycle => some cycle
        | .ok stillUnmet => searchRoots next roots stillUnmet
      else searchRoots next roots unmet

/-- A cycle among the listed nodes, the first node again at the end: the first one that is closed
when the nodes are taken as roots in the order of the list and their successors in the order of
`next`. -/
def findCycle (next : α → List α) (nodes : List α) : Option (List α) :=
  searchRoots next (distinct nodes) (distinct nodes)

/-- The consecutive pairs of a path. -/
def pathEdges (path : List α) : List (α × α) :=
  path.zip path.tail

end ActivityMatrix.Digraph
