import ActivityMatrix.Document

/-!
# Violations

Why a matrix is refused: one constructor for each way to break a rule, with what is needed to find
the fault. A violation is reported with the code of its rule, a message, and the two activities of
the cell or pair at fault.
-/

namespace ActivityMatrix

/-- The rules that a matrix can break. -/
inductive Rule where
  /-- Every activity is one of those allowed. -/
  | membership
  /-- Every cell is present and holds symbols that may stand there. -/
  | wellFormedCells
  /-- No strict order is joined with a symbol that contradicts it. -/
  | legalCombinations
  /-- Equivalence and exclusion are stated from both sides. -/
  | reciprocity
  /-- No two activities strictly precede each other. -/
  | oneDirection
  /-- The strict precedences form no cycle. -/
  | acyclicity
  deriving DecidableEq, Repr, Inhabited

namespace Rule

def all : List Rule :=
  [membership, wellFormedCells, legalCombinations, reciprocity, oneDirection, acyclicity]

/-- The code under which a breach of the rule is reported. -/
def code : Rule → String
  | membership => "UNKNOWN_ACTIVITY"
  | wellFormedCells => "MALFORMED_RELATION"
  | legalCombinations => "ILLEGAL_COMBINATION"
  | reciprocity => "NON_RECIPROCAL"
  | oneDirection => "TEMPORAL_CLASH"
  | acyclicity => "CYCLIC_DEPENDENCY"

end Rule

/-- A breach of a rule as it is reported. -/
structure Notice where
  code : String
  message : String
  /-- The cell at fault, by its row and its column. -/
  pair : Option (String × String)
  deriving DecidableEq, Repr, Inhabited

namespace Notice

/-- The code of a breach of no particular rule. -/
def generalCode : String := "ARM_INVALID"

/-- Where the fault lies: a cell, or the matrix as a whole. -/
def location (notice : Notice) : String :=
  match notice.pair with
  | none => "matrix"
  | some (row, column) => "[" ++ row ++ "][" ++ column ++ "]"

/-- The notice as a document. -/
def toDocument (notice : Notice) : Document :=
  .object [("code", .text notice.code), ("message", .text notice.message),
    ("pair", match notice.pair with
      | none => .null
      | some (row, column) => .texts [row, column])]

end Notice

/-- A fault of a matrix. -/
inductive Violation where
  /-- The activity at the given place, a row or a column of that row, is not allowed. -/
  | unknownActivity (row column : String)
  /-- A cell is described by something that is no pair. -/
  | notAPair (row column : String) (found : Document)
  /-- A cell is described by a pair of which not both members are texts. -/
  | notSymbols (row column : String) (found : Document)
  | badDiagonal (activity : String) (found : Option Relation)
  | missingCell (row column : String)
  | illegalSymbols (row column : String) (found : Relation)
  | illegalCombination (row column : String) (found : Relation)
  | notReciprocal (row column : String) (forward backward : String)
  /-- Both cells of a pair state the same strict direction. -/
  | clash (row column : String) (forward backward : String)
  | cycle (path : List String)
  deriving Repr, Inhabited

namespace Violation

/-- The rule that is broken. -/
def rule : Violation → Rule
  | unknownActivity .. => .membership
  | notAPair .. | notSymbols .. | badDiagonal .. | missingCell .. | illegalSymbols .. =>
      .wellFormedCells
  | illegalCombination .. => .legalCombinations
  | notReciprocal .. => .reciprocity
  | clash .. => .oneDirection
  | cycle .. => .acyclicity

/-- The cell, the pair or the edge at fault. -/
def pair : Violation → Option (String × String)
  | unknownActivity row column | notAPair row column _ | notSymbols row column _
  | missingCell row column | illegalSymbols row column _ | illegalCombination row column _
  | notReciprocal row column _ _ | clash row column _ _ => some (row, column)
  | badDiagonal activity _ => some (activity, activity)
  | cycle (first :: second :: _) => some (first, second)
  | cycle _ => none

/-- The activities of a cycle, the first one again at its end; empty for other faults. -/
def path : Violation → List String
  | cycle path => path
  | _ => []

def message : Violation → String
  | unknownActivity _ column =>
      s!"Activity \"{column}\" is not in the allowed activity list"
  | notAPair row column found =>
      s!"Cell [{row}][{column}] must be a [temporal, existential] pair, got {found.display}"
  | notSymbols row column found =>
      s!"Cell [{row}][{column}] must contain symbol strings, got {found.display}"
  | badDiagonal activity found =>
      let shown := (found.map Relation.text).getD "missing"
      s!"Self-relationship on '{activity}' must be (x, x), got {shown}"
  | missingCell row column => s!"Missing relation at [{row}][{column}]"
  | illegalSymbols row column found =>
      s!"Invalid dependency at [{row}][{column}]: {found.temporal}, {found.existential}"
  | illegalCombination row column found =>
      s!"Illogical combination at [{row}][{column}]: {found.key}"
  | notReciprocal row column forward backward =>
      s!"Existential relation conflict: {row} {forward} {column} is not reciprocal " ++
        s!"([{column}][{row}] has {backward})"
  | clash row column forward backward =>
      s!"Temporal order clash: both \"{row} {forward} {column}\" and " ++
        s!"\"{column} {backward} {row}\" present"
  | cycle path =>
      let shown := " → ".intercalate path
      s!"Cycle detected: temporal relations are inconsistent ({shown})"

def notice (v : Violation) : Notice :=
  ⟨v.rule.code, v.message, v.pair⟩

end Violation

end ActivityMatrix
