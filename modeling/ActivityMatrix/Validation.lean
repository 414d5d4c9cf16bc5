import ActivityMatrix.Digraph.Order
import ActivityMatrix.Matrix
import ActivityMatrix.Violation

/-!
# Validation of matrices

The checks that a matrix has to pass, one search for each rule. They are made in a fixed order, and
the first fault found decides. A matrix that passes has an order of its activities that respects
every strict precedence, and the least such order is the answer.
-/

namespace ActivityMatrix

namespace Matrix

/-- The strict precedence that a cell states between two different activities, the earlier activity
first. -/
def precedence? (row column : String) (r : Relation) : Option (String × String) :=
  if row = column then none
  else if r.precedes then some (row, column)
  else if r.follows then some (column, row)
  else none

/-- The strict precedences that the cells state, each once and in ascending order. -/
def precedenceEdges (m : Matrix) : List (String × String) :=
  sortPairs (distinct (m.cellList.filterMap fun cell => precedence? cell.1 cell.2.1 cell.2.2))

/-- Every listed activity with every listed activity that differs from it. -/
def differentPairs (m : Matrix) : List (String × String) :=
  m.activities.flatMap fun a => (m.activities.filter (a ≠ ·)).map (a, ·)

/-! ## The checks -/

/-- The places of the matrix that name an activity, with the row first: a row itself and the
columns of the row. -/
def places (m : Matrix) : List (String × String) :=
  m.cells.entries.flatMap fun row => (row.1, row.1) :: row.2.keys.map (row.1, ·)

/-- The first place that names an activity which is not allowed. -/
def checkMembership (allowed : Option (List String)) (m : Matrix) : Option Violation :=
  allowed.bind fun names => m.places.findSome? fun (row, column) =>
    if names.contains column then none else some (.unknownActivity row column)

/-- The first listed activity that is not related to itself by identity. -/
def checkDiagonal (m : Matrix) : Option Violation :=
  m.activities.findSome? fun a =>
    let found := m.get? a a
    if found.any Relation.isIdentity then none else some (.badDiagonal a found)

/-- The first cell for two different activities that is missing or holds an illegal symbol. -/
def checkSymbols (m : Matrix) : Option Violation :=
  m.differentPairs.findSome? fun (a, b) =>
    match m.get? a b with
    | none => some (.missingCell a b)
    | some r => if r.hasLegalSymbols then none else some (.illegalSymbols a b r)

/-- The first cell that joins a strict order with a symbol that contradicts it. -/
def checkCombinations (m : Matrix) : Option Violation :=
  m.differentPairs.findSome? fun (a, b) =>
    let r := m.relation a b
    if r.isIllegalCombination then some (.illegalCombination a b r) else none

/-- The first equivalence or exclusion that the cell of the other direction does not repeat. -/
def checkReciprocity (m : Matrix) : Option Violation :=
  m.differentPairs.findSome? fun (a, b) =>
    let forward := (m.relation a b).existential
    let backward := (m.relation b a).existential
    if Existential.reciprocal.contains forward && backward != forward then
      some (.notReciprocal a b forward backward)
    else none

/-- The first pair whose two cells state the same strict direction. -/
def checkClash (m : Matrix) : Option Violation :=
  m.pairs.findSome? fun (a, b) =>
    let forward := m.relation a b
    let backward := m.relation b a
    if (forward.precedes && backward.precedes) || (forward.follows && backward.follows) then
      some (.clash a b forward.temporal backward.temporal)
    else none

/-- The first fault of the cells, the rules taken in order. -/
def firstFault (allowed : Option (List String)) (m : Matrix) : Option Violation :=
  -- later checks may rely on the earlier ones: cells are read once they are known to be there
  (m.checkMembership allowed).or <| m.checkDiagonal.or <| m.checkSymbols.or <|
    m.checkCombinations.or <| m.checkReciprocity.or m.checkClash

/-- The activities in the least order that respects the strict precedences, or the first fault. -/
def validate (allowed : Option (List String)) (m : Matrix) : Except Violation (List String) :=
  match m.firstFault allowed with
  | some fault => .error fault
  | none => (Digraph.topologicalOrder m.activities m.precedenceEdges).mapError .cycle

end Matrix

/-! ## Reports -/

/-- What a validation found out about a matrix. -/
structure ValidationReport where
  activities : List String
  /-- Their order, or the first fault. -/
  outcome : Except Violation (List String)

namespace ValidationReport

/-- The report on a matrix. -/
def ofMatrix (allowed : Option (List String)) (m : Matrix) : ValidationReport :=
  ⟨m.activities, m.validate allowed⟩

def isValid (report : ValidationReport) : Bool :=
  report.outcome.toBool

/-- The order of the activities, empty for a matrix that is not valid. -/
def order (report : ValidationReport) : List String :=
  report.outcome.toOption.getD []

def frame : String := String.ofList (List.replicate 60 '=')

/-- The report in words, line by line. -/
def summaryLines (report : ValidationReport) : List String :=
  let status := if report.isValid then "VALID" else "INVALID"
  let faultLine := match report.outcome with
    | .ok _ => []
    | .error fault =>
        let notice := fault.notice
        [s!"Error: [{notice.code}] {notice.location} {notice.message}"]
  let shown := " → ".intercalate report.order
  let orderLine := if report.order.isEmpty then [] else ["Order: " ++ shown]
  [frame, "ARM VALIDATION REPORT", frame, "", "Status: " ++ status,
    s!"Activities: {report.activities.length}"] ++ faultLine ++ orderLine ++ [frame]

def summary (report : ValidationReport) : String :=
  "\n".intercalate report.summaryLines

end ValidationReport

end ActivityMatrix
