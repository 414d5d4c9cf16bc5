import ActivityMatrix.Digraph.NeighbourIndex
import ActivityMatrix.Digraph.Reachability
import ActivityMatrix.Sorting

/-!
# Relation sets

The relations of a matrix, sorted by what they mean for a process: strict precedences, those among
them that are immediate, and the pairs of activities that exclude each other, that occur together,
or of which at least one occurs. Questions about neighbours are answered in the order of the
activities; a neighbour that is reached through another neighbour is no direct one.
-/

namespace ActivityMatrix

/-- How two activities that may occur side by side depend on each other. -/
inductive PairKind where
  | exclusive
  | parallel
  | inclusive
  deriving DecidableEq, Repr, Inhabited

namespace PairKind

def name : PairKind → String
  | exclusive => "exclusive"
  | parallel => "parallel"
  | inclusive => "inclusive"

def all : List PairKind := [exclusive, parallel, inclusive]

def ofName? (name : String) : Option PairKind :=
  all.find? (·.name == name)

end PairKind

/-- From which side a one-directional implication is read. -/
inductive OptionalSide where
  /-- The first activity implies the second. -/
  | optionalTo
  /-- The second activity implies the first. -/
  | optionalFrom
  deriving DecidableEq, Repr, Inhabited

namespace OptionalSide

def name : OptionalSide → String
  | optionalTo => "optional_to"
  | optionalFrom => "optional_from"

end OptionalSide

/-- The classified relations of a matrix. -/
structure RelationSets where
  /-- The activities as the matrix lists them. -/
  activities : List String := []
  /-- The activities in an order that respects the chains. -/
  order : List String := []
  /-- The strict precedences, the earlier activity first. -/
  chains : List (String × String) := []
  /-- The immediate ones among the strict precedences. -/
  direct : List (String × String) := []
  /-- The pairs of which exactly one activity occurs. -/
  exclusive : List (String × String) := []
  /-- The pairs of which both activities occur or neither does. -/
  parallel : List (String × String) := []
  /-- The pairs of which at least one activity occurs. -/
  inclusive : List (String × String) := []
  /-- The implications that hold in one direction only. -/
  optional : List (String × String × OptionalSide) := []
  deriving DecidableEq, Repr, Inhabited

/-- Two activities as an unordered pair: the least one first. -/
def canonicalPair (a b : String) : String × String :=
  if nameLE a b then (a, b) else (b, a)

namespace RelationSets

variable (r : RelationSets)

/-! ## Positions -/

/-- The position of an activity in the order; the length of the order for an unknown one. -/
def index (activity : String) : Nat :=
  position activity r.order

/-- The last position of an activity in the order; for an unknown one, the number of different
activities. -/
def lastIndex (activity : String) : Nat :=
  if activity ∈ r.order then r.order.length - 1 - position activity r.order.reverse
  else (distinct r.order).length

/-- The given activities in the order of the relations, each once. -/
def sortByOrder (activities : List String) : List String :=
  sortByRank r.index (distinct activities)

/-! ## Neighbours -/

/-- All stated precedences, the immediate ones included. -/
def edges : List (String × String) :=
  r.chains ++ r.direct

/-- The activities that an activity precedes by statement. -/
def successors (activity : String) : List String :=
  sortByRank r.lastIndex (distinct (Digraph.successors r.edges activity))

/-- The activities that precede an activity by statement. -/
def predecessors (activity : String) : List String :=
  sortByRank r.lastIndex (distinct (Digraph.predecessors r.edges activity))

/-- The neighbours of every activity and of every end of a precedence. -/
def neighbourIndex (ends : List String) (neighbours : String → List String) : NeighbourIndex where
  entries := (distinct (r.activities ++ ends)).map fun a => (a, neighbours a)
  keys_nodup := by simpa [List.map_map, Function.comp_def] using nodup_distinct (r.activities ++ ends)

/-- The activities that each activity precedes by statement. -/
def successorIndex : NeighbourIndex :=
  r.neighbourIndex (r.edges.map Prod.fst) r.successors

/-- The activities that precede each activity by statement. -/
def predecessorIndex : NeighbourIndex :=
  r.neighbourIndex (r.edges.map Prod.snd) r.predecessors

/-- The activities that an activity precedes, directly or through others. -/
def reachable (activity : String) : List String :=
  Digraph.reachable r.edges activity

/-- The activities that precede an activity, directly or through others. -/
def ancestors (activity : String) : List String :=
  Digraph.reachable (Digraph.converse r.edges) activity

/-- The successors that no other successor reaches. -/
def directSuccessors (activity : String) : List String :=
  let next := r.successors activity
  -- each search is made once, whatever the number of successors
  let reached := next.map fun b => (b, r.reachable b)
  next.filter fun c => !reached.any fun (b, seen) => b ≠ c && seen.contains c

/-- The predecessors that reach no other predecessor. -/
def directPredecessors (activity : String) : List String :=
  let before := r.predecessors activity
  before.filter fun p =>
    let seen := r.reachable p
    !before.any fun q => q ≠ p && seen.contains q

/-- The activities that nothing precedes, in order. -/
def startActivities : List String :=
  r.order.filter fun a => (r.predecessors a).isEmpty

/-- The activities that precede nothing, in order. -/
def endActivities : List String :=
  r.order.filter fun a => (r.successors a).isEmpty

/-- The members of the first list that are in all other ones; nothing for no list. -/
def common : List (List String) → List String
  | [] => []
  | first :: others => first.filter fun a => others.all (·.contains a)

/-- The last activity, in order, that precedes all the given ones. -/
def latestCommonPredecessor (activities : List String) : Option String :=
  (r.sortByOrder (common (activities.map r.ancestors))).getLast?

/-! ## Pairs -/

/-- Whether a list of pairs holds two activities in either order. -/
def holdsPair (pairs : List (String × String)) (a b : String) : Bool :=
  pairs.any fun pair => canonicalPair pair.1 pair.2 == canonicalPair a b

/-- What is stated of two activities as an unordered pair: exclusion outweighs inclusion, and
inclusion outweighs joint occurrence. -/
def pairKind (a b : String) : Option PairKind :=
  if holdsPair r.exclusive a b then some .exclusive
  else if holdsPair r.inclusive a b then some .inclusive
  else if holdsPair r.parallel a b then some .parallel
  else none

/-- What is stated of every two of the given activities. -/
def pairKinds (activities : List String) : List (Option PairKind) :=
  (orderedPairs activities).map fun (a, b) => r.pairKind a b

end RelationSets

end ActivityMatrix
