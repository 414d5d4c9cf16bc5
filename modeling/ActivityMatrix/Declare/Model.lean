import ActivityMatrix.Json.Reader
import ActivityMatrix.Json.Writer

/-!
# Declare models

A Declare model lists activities, constraints between two of them, and constraints on single ones.
Models that are computed hold names; models that are read from a document hold whatever values stand
there, since a file is taken at its word. The document form is an object with three lists.
-/

namespace ActivityMatrix.Declare

/-- A constraint from one activity to another. -/
structure Constraint (α : Type) where
  /-- The activity that the constraint is read from. -/
  source : α
  target : α
  name : α
  /-- How it is shown, if that is stated. -/
  label : Option α := none
  deriving DecidableEq, Repr, Inhabited

/-- A constraint on one activity. -/
structure Unary (α : Type) where
  activity : α
  name : α
  deriving DecidableEq, Repr, Inhabited

/-- Activities with the constraints on them. -/
structure Model (α : Type) where
  activities : List α := []
  constraints : List (Constraint α) := []
  unary : List (Unary α) := []
  deriving DecidableEq, Repr, Inhabited

variable {α β : Type}

/-- The constraint with every value changed. -/
def Constraint.map (f : α → β) (c : Constraint α) : Constraint β :=
  ⟨f c.source, f c.target, f c.name, c.label.map f⟩

def Unary.map (f : α → β) (u : Unary α) : Unary β :=
  ⟨f u.activity, f u.name⟩

namespace Model

/-- The model with every value changed. -/
def map (f : α → β) (m : Model α) : Model β :=
  ⟨m.activities.map f, m.constraints.map (·.map f), m.unary.map (·.map f)⟩

/-- A model of names as a model of documents. -/
def ofNames (m : Model String) : Model Document :=
  m.map Document.text

/-- The constraints of a name. -/
def constraintsNamed (m : Model Document) (name : Document) : List (Constraint Document) :=
  m.constraints.filter (·.name.same name)

/-! ## The document form -/

/-- A constraint as a document; a label that is not stated is left out. -/
def constraintDocument (c : Constraint Document) : Document :=
  .object <| [("source", c.source), ("target", c.target), ("constraint", c.name)]
    ++ (c.label.map fun label => ("label", label)).toList

def unaryDocument (u : Unary Document) : Document :=
  .object [("activity", u.activity), ("constraint", u.name)]

def toDocument (m : Model Document) : Document :=
  .object [("activities", .sequence m.activities),
    ("constraints", .sequence (m.constraints.map constraintDocument)),
    ("unary", .sequence (m.unary.map unaryDocument))]

def toJson (layout : Json.Layout) (m : Model Document) : String :=
  Json.write layout m.toDocument

/-- Why a document holds no model. -/
inductive ReadError where
  | notAnObject
  /-- A list, or an entry of a list, is a value of another kind. -/
  | wrongKind
  | missingKey (key : String)
  deriving DecidableEq, Repr, Inhabited

namespace ReadError

def message : ReadError → String
  | notAnObject => "Declare model must be an object"
  | wrongKind => "Declare model list or entry has the wrong type"
  | missingKey key => "Declare model entry missing key: " ++ Text.quoted key

end ReadError

/-- The members of a document that is read as a list: those of a sequence, the keys of a mapping,
or the characters of a text. -/
def members : Document → Except ReadError (List Document)
  | .sequence items => .ok items
  | .mapping entries => .ok (entries.map fun entry => .scalar entry.1)
  | .scalar (.text s) => .ok (s.toList.map fun c => .text c.toString)
  | _ => .error .wrongKind

/-- The members of a list of an object; a list that is not there is empty. -/
def membersAt (key : String) (entries : List (Scalar × Document)) :
    Except ReadError (List Document) :=
  match Document.lookup key entries with
  | none => .ok []
  | some document => members document

/-- The value of a key that has to be there. -/
def required (key : String) (entries : List (Scalar × Document)) : Except ReadError Document :=
  match Document.lookup key entries with
  | none => .error (.missingKey key)
  | some value => .ok value

/-- A value that counts as absent when it is null. -/
def stated : Option Document → Option Document
  | some (.scalar .null) => none
  | value => value

/-- The entries of a document that has to be an object. -/
def entriesOf : Document → Except ReadError (List (Scalar × Document))
  | .mapping entries => .ok entries
  | _ => .error .wrongKind

def readConstraint (document : Document) : Except ReadError (Constraint Document) := do
  let entries ← entriesOf document
  return {
    source := ← required "source" entries
    target := ← required "target" entries
    name := ← required "constraint" entries
    label := stated (Document.lookup "label" entries) }

def readUnary (document : Document) : Except ReadError (Unary Document) := do
  let entries ← entriesOf document
  return { activity := ← required "activity" entries, name := ← required "constraint" entries }

/-- The model that a document holds. Of two faults the one in the constraints is found first, then
the one in the constraints on single activities. -/
def ofDocument : Document → Except ReadError (Model Document)
  | .mapping entries => do
      let constraints ← (← membersAt "constraints" entries).mapM readConstraint
      let unary ← (← membersAt "unary" entries).mapM readUnary
      let activities ← membersAt "activities" entries
      return { activities, constraints, unary }
  | _ => .error .notAnObject

/-- Why a text holds no model. -/
inductive TextError where
  | notJson
  | shape (error : ReadError)
  deriving DecidableEq, Repr, Inhabited

def ofJson (text : String) : Except TextError (Model Document) :=
  match Json.read? text with
  | none => .error .notJson
  | some document => (ofDocument document).mapError .shape

/-- Whether two models hold the same values. -/
def same (m n : Model Document) : Bool :=
  m.toDocument.same n.toDocument

end Model

end ActivityMatrix.Declare
