/-!
# Reachability along edges

A directed graph is a list of edges. The nodes that can be reached from a frontier are collected by
a search that uses up the edges leaving each node it meets, so that no node is expanded twice and
the search ends on every graph, cyclic ones included: what is left of the edges together with the
frontier shrinks at every step.
-/

namespace ActivityMatrix.Digraph

variable {α : Type} [DecidableEq α]

/-- The targets of the edges that leave a node, in the order of the edges. -/
def successors (edges : List (α × α)) (node : α) : List α :=
  (edges.filter fun edge => edge.1 = node).map Prod.snd

/-- The sources of the edges that enter a node, in the order of the edges. -/
def predecessors (edges : List (α × α)) (node : α) : List α :=
  (edges.filter fun edge => edge.2 = node).map Prod.fst

/-- The edges with their direction turned. -/
def converse (edges : List (α × α)) : List (α × α) :=
  edges.map Prod.swap

/-- The edges that do not leave a node. -/
def notLeaving (edges : List (α × α)) (node : α) : List (α × α) :=
  edges.filter fun edge => !decide (edge.1 = node)

/-- An edge either leaves a node or does not. -/
theorem length_successors_add (edges : List (α × α)) (node : α) :
    (successors edges node).length + (notLeaving edges node).length = edges.length := by
  induction edges with
  | nil => rfl
  | cons edge rest ih =>
      simp only [successors, notLeaving, List.length_map] at ih ⊢
      by_cases h : edge.1 = node <;> simp [h] <;> omega

/-- The nodes met by a search from a frontier, added to those seen before. -/
def explore (edges : List (α × α)) (seen : List α) : List α → List α
  | [] => seen
  | node :: frontier =>
      if node ∈ seen then explore edges seen frontier
      else
        explore (notLeaving edges node) (node :: seen) (successors edges node ++ frontier)
termination_by frontier => edges.length + frontier.length
decreasing_by
  · simp
  · have := length_successors_add edges node
    simp only [List.length_append, List.length_cons]
    omega

/-- The nodes other than `node` itself that some path of at least one edge leads to. -/
def reachable (edges : List (α × α)) (node : α) : List α :=
  (explore edges [] (successors edges node)).filter (· ≠ node)

/-- Whether a path of at least one edge leads from `source` to another node `target`. -/
def canReach (edges : List (α × α)) (source target : α) : Bool :=
  (reachable edges source).contains target

end ActivityMatrix.Digraph
