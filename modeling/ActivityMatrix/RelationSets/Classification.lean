import ActivityMatrix.RelationSets
import ActivityMatrix.Validation

/-!
# Classification of the cells of a matrix

The relation sets of a matrix. Precedences are read off either cell of a pair; equivalence counts
as joint occurrence only between activities that both cells leave unordered; and a pair that is
exclusive is neither joint nor inclusive. All sets are in ascending order.
-/

namespace ActivityMatrix.RelationSets

/-- The cells between different activities. -/
def properCells (m : Matrix) : List (String × String × Relation) :=
  m.cellList.filter fun cell => cell.1 ≠ cell.2.1

/-- The precedences that cells state, each once and in ascending order. -/
def statedEdges (cells : List (String × String × Relation)) : List (String × String) :=
  sortPairs (distinct (cells.filterMap fun cell =>
    Matrix.precedence? cell.1 cell.2.1 cell.2.2))

/-- The unordered pairs of cells that satisfy a test, each once and in ascending order. -/
def statedPairs (test : String → String → Relation → Bool)
    (cells : List (String × String × Relation)) : List (String × String) :=
  sortPairs (distinct ((cells.filter fun cell => test cell.1 cell.2.1 cell.2.2).map fun cell =>
    canonicalPair cell.1 cell.2.1))

/-- The implication that a cell states in one direction only. -/
def optionalSide? (r : Relation) : Option OptionalSide :=
  if r.existential = Existential.implies then some .optionalTo
  else if r.existential = Existential.impliedBy then some .optionalFrom
  else none

/-- The order of implications: by the activities, and then by the name of the side. -/
def optionalLE (a b : String × String × OptionalSide) : Bool :=
  tripleLE (a.1, a.2.1, a.2.2.name) (b.1, b.2.1, b.2.2.name)

/-- The one-directional implications that cells state, each once and in ascending order. -/
def statedOptional (cells : List (String × String × Relation)) :
    List (String × String × OptionalSide) :=
  sortBy optionalLE (distinct (cells.filterMap fun cell =>
    (optionalSide? cell.2.2).map fun side => (cell.1, cell.2.1, side)))

/-- The relation sets of a matrix whose activities are in a known order. -/
def ofMatrixWithOrder (m : Matrix) (order : List String) : RelationSets :=
  let cells := properCells m
  let exclusive := statedPairs (fun _ _ r => r.existential == Existential.exclusive) cells
  let unlessExclusive := List.filter fun pair : String × String => !exclusive.contains pair
  { activities := m.activities
    order
    chains := statedEdges cells
    direct := statedEdges (cells.filter (·.2.2.isDirect))
    exclusive
    -- a pair occurs side by side only if neither cell orders it
    parallel := unlessExclusive (statedPairs (fun a b r => r.existential == Existential.equivalent
      && r.isUnordered && (m.relation b a).isUnordered) cells)
    inclusive := unlessExclusive
      (statedPairs (fun _ _ r => r.existential == Existential.inclusive) cells)
    optional := statedOptional cells }

/-- The relation sets of a matrix. The order of the activities is the given one, or else the least
one that respects the precedences; without one, a cycle is the answer. -/
def ofMatrix (m : Matrix) (order : Option (List String)) : Except Violation RelationSets :=
  match order with
  | some known => .ok (ofMatrixWithOrder m known)
  | none =>
      ((Digraph.topologicalOrder m.activities (statedEdges (properCells m))).mapError
        Violation.cycle).map (ofMatrixWithOrder m)

end ActivityMatrix.RelationSets
