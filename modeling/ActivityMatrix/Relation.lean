import ActivityMatrix.Text.Blank

/-!
# Relations between two activities

A cell of a matrix is read from the activity of its row: a temporal symbol for the order of the two
activities and an existential symbol for how their occurrences depend on each other. Symbols are
kept as they were written, legal or not, so that a report can show them. A relation is looked up by
its key, the two symbols side by side, and read from the other activity it is its converse.
-/

namespace ActivityMatrix

/-! ## Temporal symbols -/

namespace Temporal

/-- The row activity comes at some time before the column activity. -/
def before : String := "<"

/-- The row activity comes immediately before the column activity. -/
def directlyBefore : String := "<d"

/-- The row activity comes at some time after the column activity. -/
def after : String := ">"

/-- The row activity comes immediately after the column activity. -/
def directlyAfter : String := ">d"

/-- No order is stated. -/
def unordered : String := "-"

/-- The symbols that may stand between two different activities. -/
def symbols : List String := [before, directlyBefore, after, directlyAfter, unordered]

/-- The symbols by which the row activity strictly precedes. -/
def precedence : List String := [before, directlyBefore]

/-- The symbols by which the row activity strictly follows. -/
def succession : List String := [after, directlyAfter]

/-- The symbols that allow nothing in between. -/
def direct : List String := [directlyBefore, directlyAfter]

/-- The symbol read from the other activity. -/
def converse (symbol : String) : String :=
  if symbol = before then after
  else if symbol = after then before
  else if symbol = directlyBefore then directlyAfter
  else if symbol = directlyAfter then directlyBefore
  else symbol

end Temporal

/-! ## Existential symbols -/

namespace Existential

/-- If the row activity occurs, so does the column activity. -/
def implies : String := "⇒"

/-- If the column activity occurs, so does the row activity. -/
def impliedBy : String := "⇐"

/-- Both activities occur or neither does. -/
def equivalent : String := "⇔"

/-- Exactly one of the two activities occurs. -/
def exclusive : String := "⇎"

/-- At least one of the two activities occurs. -/
def inclusive : String := "∨"

/-- Not both activities occur. -/
def nand : String := "∧"

/-- No dependence is stated. -/
def independent : String := "-"

/-- The symbols that may stand between two different activities. -/
def symbols : List String :=
  [implies, impliedBy, equivalent, exclusive, inclusive, nand, independent]

/-- The symbols that contradict a strict order of the two activities. -/
def orderIncompatible : List String := [exclusive, inclusive, nand]

/-- The symbols that have to stand in both cells of a pair. -/
def reciprocal : List String := [equivalent, exclusive]

/-- The symbol read from the other activity. -/
def converse (symbol : String) : String :=
  if symbol = implies then impliedBy
  else if symbol = impliedBy then implies
  else symbol

end Existential

/-! ## Written symbols -/

/-- The symbol of an activity's relation to itself, in both places. -/
def selfSymbol : String := "x"

/-- An older spelling of the negated conjunction. -/
def olderNand : String := "¬∧"

/-- A symbol without blanks around it and in its present spelling. -/
def normalizeSymbol (symbol : String) : String :=
  let stripped := Text.strip symbol
  if stripped = olderNand then Existential.nand else stripped

/-! ## Relations -/

/-- One cell of a matrix, read from the activity of its row. -/
structure Relation where
  /-- How the two activities are ordered. -/
  temporal : String
  /-- How the occurrences of the two activities depend on each other. -/
  existential : String
  deriving DecidableEq, Repr, Inhabited

namespace Relation

def identity : Relation := ⟨selfSymbol, selfSymbol⟩

/-- The relation of two activities about which nothing is stated. -/
def unrelated : Relation := ⟨Temporal.unordered, Existential.independent⟩

/-- The two symbols side by side. -/
def key (r : Relation) : String :=
  r.temporal ++ r.existential

def isIdentity (r : Relation) : Bool :=
  r.temporal == selfSymbol && r.existential == selfSymbol

/-- Whether the row activity strictly precedes the column activity. -/
def precedes (r : Relation) : Bool :=
  Temporal.precedence.contains r.temporal

/-- Whether the row activity strictly follows the column activity. -/
def follows (r : Relation) : Bool :=
  Temporal.succession.contains r.temporal

/-- Whether the two activities are immediate neighbours. -/
def isDirect (r : Relation) : Bool :=
  Temporal.direct.contains r.temporal

def isUnordered (r : Relation) : Bool :=
  r.temporal == Temporal.unordered

def hasLegalSymbols (r : Relation) : Bool :=
  Temporal.symbols.contains r.temporal && Existential.symbols.contains r.existential

/-- The keys that join a strict order with a symbol that contradicts it. -/
def illegalKeys : List String :=
  (Temporal.precedence ++ Temporal.succession).flatMap fun temporal =>
    Existential.orderIncompatible.map (temporal ++ ·)

/-- Whether the relation joins a strict order with a symbol that contradicts it. -/
def isIllegalCombination (r : Relation) : Bool :=
  illegalKeys.contains r.key

/-- The relation read from the column activity. -/
def converse (r : Relation) : Relation :=
  ⟨Temporal.converse r.temporal, Existential.converse r.existential⟩

/-- The relation in parentheses, as messages show it. -/
def text (r : Relation) : String :=
  "(" ++ r.temporal ++ ", " ++ r.existential ++ ")"

end Relation

end ActivityMatrix
