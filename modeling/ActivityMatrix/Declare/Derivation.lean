import ActivityMatrix.Declare.Model
import ActivityMatrix.Matrix

/-!
# Declare constraints of a matrix

Every two activities of a matrix are looked at once, the one that is listed first as the row. The
key of their cell, or else the key of its converse with the activities exchanged, names the
constraint between them; a pair without a constraint is reported as unmapped. A single activity that
strictly precedes all others is the first one of the process.
-/

namespace ActivityMatrix.Declare

/-- The constraints by the keys of cells. -/
def constraintTable : List (String × String) :=
  [("<d⇒", "chain_response"), ("<d⇔", "chain_succession"), (">d⇒", "chain_precedence"),
   ("<⇒", "response"), ("<⇔", "succession"), (">⇒", "precedence"), ("<-", "neg_response"),
   ("-⇒", "resp_existence"), ("-⇔", "coexistence"), ("-⇎", "not_coexistence"), ("-∨", "choice"),
   ("-∧", "resp_absence"), ("--", "default_independence")]

/-- The constraints that are recognized and not stated. -/
def silentConstraints : List String := ["default_independence"]

/-- The constraints that read alike from both activities: they are stated from the least one. -/
def symmetricConstraints : List String :=
  ["coexistence", "not_coexistence", "choice", "resp_absence"]

def initConstraint : String := "init"

/-- The constraint for a cell, and whether it is read from the column activity. -/
def resolve (r : Relation) : Option (String × Bool) :=
  match constraintTable.lookup r.key with
  | some name => some (name, false)
  -- the table may know the relation from the other side only
  | none => (constraintTable.lookup r.converse.key).map (·, true)

/-- Two ends with the least one first. -/
def leastFirst (ends : String × String) : String × String :=
  if ends.2 < ends.1 then (ends.2, ends.1) else ends

/-- The ends of a constraint between a row and a column activity. -/
def orient (name : String) (reversed : Bool) (row column : String) : String × String :=
  let ends := if reversed then (column, row) else (row, column)
  if symmetricConstraints.contains name then leastFirst ends else ends

/-- What the cell of a pair contributes to a model. -/
inductive Contribution where
  | stated (c : Constraint String)
  | silent
  /-- An entry among the pairs without a constraint. -/
  | unmapped (row column key : String)
  deriving DecidableEq, Repr, Inhabited

/-- What the relation of a row to a column activity contributes. -/
def contribution (row column : String) (r : Relation) : Contribution :=
  match resolve r with
  | none => .unmapped row column r.key
  | some (name, reversed) =>
      if silentConstraints.contains name then .silent
      else
        let (source, target) := orient name reversed row column
        .stated ⟨source, target, name, some name⟩

/-- What the pairs of a matrix contribute, in order. -/
def contributions (m : Matrix) : List Contribution :=
  m.pairs.map fun (row, column) => contribution row column (m.relation row column)

/-- Whether one activity strictly precedes another one by one of their two cells. -/
def precedes (m : Matrix) (a b : String) : Bool :=
  b ≠ a && ((m.relation a b).precedes || (m.relation b a).follows)

/-- How many other activities each activity strictly precedes. -/
def precedenceCounts (m : Matrix) : List (String × Nat) :=
  (distinct m.activities).map fun a => (a, m.activities.countP (precedes m a))

/-- The only activity that strictly precedes all others. -/
def findInit (m : Matrix) : Option String :=
  match (precedenceCounts m).filter fun entry => entry.2 + 1 = m.size with
  | [entry] => some entry.1
  | _ => none

/-- A model with the pairs that have no constraint. -/
structure Derivation where
  model : Model String
  /-- The pairs without a constraint, each with the key of its cell. -/
  unmapped : List (String × String × String)
  deriving DecidableEq, Repr, Inhabited

def Derivation.ofMatrix (m : Matrix) : Derivation where
  model :=
    { activities := m.activities
      constraints := (contributions m).filterMap fun
        | .stated c => some c
        | _ => none
      unary := ((findInit m).map fun a => ⟨a, initConstraint⟩).toList }
  unmapped := (contributions m).filterMap fun
    | .unmapped row column key => some (row, column, key)
    | _ => none

end ActivityMatrix.Declare
