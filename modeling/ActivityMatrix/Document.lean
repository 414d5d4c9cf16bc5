import ActivityMatrix.Number.Float64
import ActivityMatrix.Relation
import ActivityMatrix.Text.Quoted

/-!
# Documents

The values that a data file holds: scalars, sequences, and mappings in the order of their entries,
whose keys are scalars. Beside what a file can hold there is one further kind of value, a relation
that is already built, so that a matrix can be described in memory.

Keys that have the same value are the same key, numbers and truth values being compared as
numbers. A repeated key keeps its first place and its last value.
-/

namespace ActivityMatrix

/-- A value without parts. -/
inductive Scalar where
  | null
  | boolean (value : Bool)
  | integer (value : Int)
  | float (value : Float64)
  | text (value : String)
  deriving DecidableEq, Repr, Inhabited

namespace Scalar

/-- How truth values are written in messages. -/
def booleanText (value : Bool) : String :=
  if value then "True" else "False"

/-- The text that stands for a scalar as a name. -/
def name : Scalar → String
  | null => "None"
  | boolean value => booleanText value
  | integer value => toString value
  | float value => value.text
  | text value => value

/-- A scalar as messages show it: text between quotes, anything else by its name. -/
def display : Scalar → String
  | text value => Text.quoted value
  | scalar => scalar.name

/-- The whole number that a truth value or an integer stands for. -/
def whole? : Scalar → Option Int
  | boolean value => some (if value then 1 else 0)
  | integer value => some value
  | _ => none

/-- Whether two scalars are the same value. -/
def same (a b : Scalar) : Bool :=
  match a, b with
  | null, null => true
  | text s, text t => s == t
  | float x, float y => x.sameValue y
  | float x, other => (other.whole?.map x.equalsInt).getD false
  | other, float y => (other.whole?.map y.equalsInt).getD false
  | _, _ => match a.whole?, b.whole? with
    | some m, some n => m == n
    | _, _ => false

end Scalar

/-- A value that a data file holds, or a relation that is already built. -/
inductive Document where
  | scalar (value : Scalar)
  | sequence (items : List Document)
  | mapping (entries : List (Scalar × Document))
  | relation (value : Relation)
  deriving Repr, Inhabited

namespace Document

def null : Document := .scalar .null

def boolean (value : Bool) : Document := .scalar (.boolean value)

def integer (value : Int) : Document := .scalar (.integer value)

def text (value : String) : Document := .scalar (.text value)

def texts (values : List String) : Document := .sequence (values.map text)

/-- A mapping from texts, in the order given. -/
def object (entries : List (String × Document)) : Document :=
  .mapping (entries.map fun entry => (.text entry.1, entry.2))

def text? : Document → Option String
  | .scalar (.text value) => some value
  | _ => none

/-- Enters a value under a key: a key that is there already stays where it is. -/
def insertEntry (key : Scalar) (value : Document) :
    List (Scalar × Document) → List (Scalar × Document)
  | [] => [(key, value)]
  | entry :: rest =>
      if entry.1.same key then (entry.1, value) :: rest
      else entry :: insertEntry key value rest

/-- The mapping with the given entries, each key at its first place with its last value. -/
def ofEntries (entries : List (Scalar × Document)) : Document :=
  .mapping (entries.foldl (fun done entry => insertEntry entry.1 entry.2 done) [])

/-- The value under a text key in a list of entries. -/
def lookup (key : String) (entries : List (Scalar × Document)) : Option Document :=
  (entries.find? fun entry => entry.1.same (.text key)).map Prod.snd

/-- What kind of value a document is, as messages name it. -/
def kindName : Document → String
  | .scalar .null => "NoneType"
  | .scalar (.boolean _) => "bool"
  | .scalar (.integer _) => "int"
  | .scalar (.float _) => "float"
  | .scalar (.text _) => "str"
  | .sequence _ => "list"
  | .mapping _ => "dict"
  | .relation _ => "Relation"

/-- Whether a document holds nothing: it is null, false, a zero, or empty. -/
def isVacant : Document → Bool
  | .scalar .null => true
  | .scalar (.boolean value) => !value
  | .scalar (.integer value) => value == 0
  | .scalar (.float value) => value.isZero
  | .scalar (.text value) => value.isEmpty
  | .sequence items => items.isEmpty
  | .mapping entries => entries.isEmpty
  | .relation _ => false

/-! ## Documents in messages -/

/-- A relation as messages show it. -/
def displayRelation (r : Relation) : String :=
  "Relation(temporal=" ++ Text.quoted r.temporal ++ ", existential="
    ++ Text.quoted r.existential ++ ")"

mutual

/-- A document as messages show it. -/
def display : Document → String
  | .scalar value => value.display
  | .sequence items => "[" ++ ", ".intercalate (displayItems items) ++ "]"
  | .mapping entries => "\x7b" ++ ", ".intercalate (displayEntries entries) ++ "\x7d"
  | .relation value => displayRelation value

/-- The members of a sequence as messages show them. -/
def displayItems : List Document → List String
  | [] => []
  | item :: rest => item.display :: displayItems rest

/-- The entries of a mapping as messages show them. -/
def displayEntries : List (Scalar × Document) → List String
  | [] => []
  | (key, value) :: rest => (key.display ++ ": " ++ value.display) :: displayEntries rest

end

/-! ## Equality of documents -/

mutual

/-- Whether two documents have the same value: scalars by value, sequences member by member,
mappings entry by entry whatever the order. -/
def same : Document → Document → Bool
  | .scalar a, .scalar b => a.same b
  | .sequence a, .sequence b => sameItems a b
  | .mapping a, .mapping b => a.length == b.length && sameEntries a b
  | .relation a, .relation b => a == b
  | _, _ => false

/-- Whether two sequences have the same members. -/
def sameItems : List Document → List Document → Bool
  | [], [] => true
  | a :: as, b :: bs => a.same b && sameItems as bs
  | _, _ => false

/-- Whether every entry of the first list has its like in the second. -/
def sameEntries : List (Scalar × Document) → List (Scalar × Document) → Bool
  | [], _ => true
  | (key, value) :: rest, others =>
      (others.any fun other => key.same other.1 && value.same other.2) && sameEntries rest others

end

end Document

end ActivityMatrix
