import ActivityMatrix.Digraph.Order
import ActivityMatrix.Text.Quoted

/-!
# Levels

A level is a number for each name such that every edge leads to a higher level. The levels are
either the lengths of the longest paths that end at the names, or the positions of the names in the
topological order. The longest paths are found without that order: names are released one by one along
a queue, a released name raises the levels of its successors and uses up the edges that leave it, and a
name that no edge enters any more goes to the end of the queue. Edges that are never used up are those
of a cycle and of what lies behind it.
-/

namespace ActivityMatrix

/-- The ways to assign levels. -/
inductive LevelStrategy where
  /-- The length of the longest path that ends at the name. -/
  | longestPath
  /-- The position in the topological order. -/
  | topologicalIndex
  deriving DecidableEq, Repr, Inhabited

namespace LevelStrategy

def name : LevelStrategy → String
  | longestPath => "longest_path"
  | topologicalIndex => "topological_index"

/-- All strategies, in ascending order of their names. -/
def all : List LevelStrategy := [longestPath, topologicalIndex]

def ofName (name : String) : Except String LevelStrategy :=
  match all.find? (·.name == name) with
  | some strategy => .ok strategy
  | none =>
      let available := Text.quotedList (all.map LevelStrategy.name)
      .error s!"Unknown level strategy '{name}'. Available: {available}"

end LevelStrategy

/-- The level of each name, as a list of entries. -/
abbrev Levels := List (String × Nat)

namespace Levels

/-- The level of a name, zero for a name without one. -/
def level (levels : Levels) (node : String) : Nat :=
  (levels.lookup node).getD 0

/-- The levels with those of some names raised to at least a number. -/
def raise (levels : Levels) (least : Nat) (names : List String) : Levels :=
  levels.map fun entry =>
    (entry.1, if names.contains entry.1 then max entry.2 least else entry.2)

/-- Releases queued names: the levels in the end, and the edges that were not used up. -/
def release (edges : List (String × String)) (levels : Levels) :
    List String → Levels × List (String × String)
  | [] => (levels, edges)
  | node :: queue =>
      -- the last edge into the name is used up, so its level stays as it is
      release (Digraph.notLeaving edges node)
        (levels.raise (levels.level node + 1) (Digraph.sortedSuccessors edges node))
        (queue ++ Digraph.freedBy edges node)
termination_by queue => edges.length + queue.length
decreasing_by
  have := Digraph.length_freedBy_add_le edges node
  simp only [List.length_append, List.length_cons]
  omega

/-- The length of the longest path that ends at each name, the names by first mention; or a
cycle. -/
def longestPaths (listed : List String) (edges : List (String × String)) :
    Except (List String) Levels :=
  let nodes := Digraph.mentionedNodes listed edges
  let free := nodes.filter (!Digraph.isEntered edges ·)
  match release edges (nodes.map (·, 0)) (sortNames free) with
  | (levels, []) => .ok levels
  -- a name that is never freed lies on a cycle or behind one
  | (_, left) => .error <|
      (Digraph.cycleAmong (Digraph.sortedSuccessors edges) (nodes.filter (Digraph.isEntered left))).getD []

/-- The position of each name in the topological order, in that order; or a cycle. -/
def positions (listed : List String) (edges : List (String × String)) :
    Except (List String) Levels := do
  return (← Digraph.topologicalOrder listed edges).zipIdx

/-- The levels that a strategy assigns, or a cycle. -/
def compute (strategy : LevelStrategy) (listed : List String) (edges : List (String × String)) :
    Except (List String) Levels :=
  match strategy with
  | .longestPath => longestPaths listed edges
  | .topologicalIndex => positions listed edges

end Levels

end ActivityMatrix
