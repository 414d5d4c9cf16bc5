import ActivityMatrix.Document

/-!
# Writing JSON

A document as JSON text, either on one line or with every member on a line of its own. Characters
beyond ASCII stand for themselves. Keys that are no texts are written as texts, and a relation as
the list of its two symbols.
-/

namespace ActivityMatrix.Json

/-- How the members of lists and objects are set apart. -/
inductive Layout where
  /-- On one line, with the given texts after a member and after a key. -/
  | oneLine (afterMember afterKey : String)
  /-- On lines of their own, indented by so many blanks for each level. -/
  | indented (width : Nat)
  deriving DecidableEq, Repr

/-- One character between double quotes. -/
def escapedChar (c : Char) : List Char :=
  if c = '"' then ['\\', '"']
  else if c = '\\' then ['\\', '\\']
  else if c = '\n' then ['\\', 'n']
  else if c = '\r' then ['\\', 'r']
  else if c = '\t' then ['\\', 't']
  else if c = '\x08' then ['\\', 'b']
  else if c = '\x0c' then ['\\', 'f']
  else if c.toNat < 0x20 then '\\' :: 'u' :: Text.hexDigits 4 c.toNat
  else [c]

def writeText (s : String) : String :=
  String.ofList ('"' :: s.toList.flatMap escapedChar ++ ['"'])

def writeScalar : Scalar → String
  | .null => "null"
  | .boolean value => if value then "true" else "false"
  | .integer value => toString value
  | .float value => value.render "Infinity" "NaN"
  | .text value => writeText value

/-- A scalar as a key. -/
def writeKey : Scalar → String
  | .text value => writeText value
  | key => writeText (writeScalar key)

/-- Members between an opening and a closing bracket at a given level. -/
def enclose (layout : Layout) (level : Nat) (opening closing : String) (members : List String) :
    String :=
  if members.isEmpty then opening ++ closing
  else match layout with
    | .oneLine afterMember _ => opening ++ afterMember.intercalate members ++ closing
    | .indented width =>
        let newline (level : Nat) := "\n" ++ String.ofList (List.replicate (width * level) ' ')
        opening ++ newline (level + 1) ++ ("," ++ newline (level + 1)).intercalate members
          ++ newline level ++ closing

def keyMark : Layout → String
  | .oneLine _ afterKey => afterKey
  | .indented _ => ": "

mutual

/-- A document at a given level. -/
def writeAt (layout : Layout) (level : Nat) : Document → String
  | .scalar value => writeScalar value
  | .sequence items => enclose layout level "[" "]" (writeItems layout (level + 1) items)
  | .mapping entries => enclose layout level "\x7b" "\x7d" (writeEntries layout (level + 1) entries)
  | .relation value =>
      enclose layout level "[" "]" [writeText value.temporal, writeText value.existential]

def writeItems (layout : Layout) (level : Nat) : List Document → List String
  | [] => []
  | item :: rest => writeAt layout level item :: writeItems layout level rest

def writeEntries (layout : Layout) (level : Nat) : List (Scalar × Document) → List String
  | [] => []
  | (key, value) :: rest =>
      (writeKey key ++ keyMark layout ++ writeAt layout level value)
        :: writeEntries layout level rest

end

def write (layout : Layout) (document : Document) : String :=
  writeAt layout 0 document

/-- The layout of files: two blanks for each level. -/
def fileLayout : Layout := .indented 2

/-- The layout of single lines: a blank after a comma and after a colon. -/
def lineLayout : Layout := .oneLine ", " ": "

end ActivityMatrix.Json
