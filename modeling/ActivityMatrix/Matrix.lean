import ActivityMatrix.Sorting
import ActivityMatrix.Table
import ActivityMatrix.Document

/-!
# Activity relationship matrices

A matrix holds the relation of a row activity to a column activity in a table of rows, each a table
of columns. Cells may be missing; where a relation is needed, a missing cell reads as identity on
the diagonal and as unrelated elsewhere. The list of activities is either given or read off the
cells by first appearance: a row before its columns.
-/

namespace ActivityMatrix

/-- The cells of a matrix: for each row activity the relations to the column activities. -/
abbrev Cells := Table String (Table String Relation)

/-- Relations between activities, by row and column. -/
structure Matrix where
  cells : Cells
  /-- The activities in the order in which they are listed. -/
  activities : List String
  deriving DecidableEq

namespace Matrix

/-- The row and column activities of cells by first appearance, a row before its columns. -/
def mentioned (cells : Cells) : List String :=
  distinct (cells.entries.flatMap fun row => row.1 :: row.2.keys)

/-- The matrix of the given cells: where no activities are listed, those that the cells mention. -/
def ofCells (cells : Cells) (activities : List String) : Matrix :=
  ⟨cells, if activities.isEmpty then mentioned cells else activities⟩

def rows (m : Matrix) : List String :=
  m.cells.keys

def size (m : Matrix) : Nat :=
  m.activities.length

def hasRow (m : Matrix) (activity : String) : Bool :=
  m.cells.contains activity

/-- The cell for a row and a column, if it is present. -/
def get? (m : Matrix) (row column : String) : Option Relation :=
  (m.cells.find? row).bind (·.find? column)

/-- What a missing cell reads as. -/
def defaultRelation (row column : String) : Relation :=
  if row = column then .identity else .unrelated

/-- The relation of a row activity to a column activity. -/
def relation (m : Matrix) (row column : String) : Relation :=
  (m.get? row column).getD (defaultRelation row column)

/-- The cells in order, row by row. -/
def cellList (m : Matrix) : List (String × String × Relation) :=
  m.cells.entries.flatMap fun row => row.2.entries.map fun cell => (row.1, cell.1, cell.2)

/-- Every listed activity with every one listed after it. -/
def pairs (m : Matrix) : List (String × String) :=
  orderedPairs m.activities

/-- The matrix as a mapping of rows to mappings of columns to pairs of symbols. -/
def toDocument (m : Matrix) : Document :=
  .object (m.cells.entries.map fun row =>
    (row.1, .object (row.2.entries.map fun cell =>
      (cell.1, .texts [cell.2.temporal, cell.2.existential]))))

end Matrix

end ActivityMatrix
