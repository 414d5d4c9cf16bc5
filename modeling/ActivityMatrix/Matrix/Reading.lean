import ActivityMatrix.Matrix
import ActivityMatrix.Violation

/-!
# Matrices from documents

A document describes a matrix when it is a mapping of row activities to mappings of column
activities to cells. A cell is described by a list of its two symbols, by a mapping with the keys
`temporal` and `existential`, or by a relation that is already built. Reading is about form alone:
symbols are freed of blanks and of older spellings, and what they are is not looked at.

A matrix can also be built from one direction of each related pair.
-/

namespace ActivityMatrix.Matrix

/-- Why a document describes no matrix. -/
inductive ReadError where
  | notAMapping (kind : String)
  | rowNotAMapping (row : String)
  | badCell (violation : Violation)
  deriving Repr, Inhabited

namespace ReadError

def message : ReadError → String
  | notAMapping kind => s!"ARM matrix must be a mapping, got {kind}"
  | rowNotAMapping row => s!"Row '{row}' must be a mapping of target -> relation"
  | badCell violation => violation.message

end ReadError

/-- A description by named symbols as a description by a list of symbols. -/
def listedSymbols : Document → Document
  | .mapping entries =>
      .sequence [(Document.lookup "temporal" entries).getD .null,
        (Document.lookup "existential" entries).getD .null]
  | document => document

/-- The relation that a document describes as the cell of a row and a column. -/
def readCell (row column : String) (description : Document) : Except Violation Relation :=
  match description with
  | .relation r => .ok r
  | _ => match listedSymbols description with
    | .sequence [temporal, existential] =>
        match temporal.text?, existential.text? with
        | some t, some e => .ok ⟨normalizeSymbol t, normalizeSymbol e⟩
        | _, _ => .error (.notSymbols row column (.sequence [temporal, existential]))
    | found => .error (.notAPair row column found)

/-- The cells of one row, a column that is named again keeping its place. -/
def readRow (row : String) (entries : List (Scalar × Document)) :
    Except Violation (Table String Relation) :=
  entries.foldlM (fun done (column, description) => do
    return done.insert column.name (← readCell row column.name description)) .empty

/-- The cells that the rows of a document describe, a row that is named again keeping its place. -/
def readRows (entries : List (Scalar × Document)) : Except ReadError Cells :=
  entries.foldlM (fun done (row, description) =>
    match description with
    | .mapping columns => do
        return done.insert row.name (← (readRow row.name columns).mapError .badCell)
    | _ => .error (.rowNotAMapping row.name)) .empty

/-- The matrix that a document describes. -/
def ofDocument (document : Document) : Except ReadError Matrix :=
  match document with
  | .mapping rows => (readRows rows).map (ofCells · [])
  | _ => .error (.notAMapping document.kindName)

/-! ## From pairs -/

/-- Cells for all given activities: identity on the diagonal, unrelated elsewhere. -/
def blankCells (activities : List String) : Cells :=
  .ofList (activities.map fun row =>
    (row, .ofList (activities.map fun column => (column, defaultRelation row column))))

/-- Enters a relation into the cell of a row and a column. -/
def setCell (cells : Cells) (row column : String) (r : Relation) : Cells :=
  cells.alter row fun columns => (columns.getD .empty).insert column r

/-- Enters the relations of related pairs one after another. The cell of the other direction gets
the converse relation, unless that direction was given before. -/
def enterPairs (cells : Cells) (given : List (String × String)) :
    List ((String × String) × Document) → Except Violation Cells
  | [] => .ok cells
  | ((row, column), description) :: rest => do
      let r ← readCell row column description
      let entered := setCell cells row column r
      let given := (row, column) :: given
      let completed :=
        if given.contains (column, row) then entered else setCell entered column row r.converse
      enterPairs completed given rest

/-- The matrix over the given activities in which the given pairs are related, each pair read in
the direction in which it is given. -/
def ofPairs (activities : List String) (related : Table (String × String) Document) :
    Except Violation Matrix :=
  (enterPairs (blankCells activities) [] related.entries).map (ofCells · activities)

end ActivityMatrix.Matrix
