/-!
# XML documents

Trees of elements and their written form, with every element on a line of its own or all on one
line. In attribute values the four special characters and the three characters of line layout are
written as references; in text only the special ones. An element without content is closed at once.
-/

namespace ActivityMatrix

/-- An element: a tag, attributes in order, and either text or further elements. -/
inductive Xml where
  | leaf (tag : String) (attributes : List (String × String)) (text : String)
  | branch (tag : String) (attributes : List (String × String)) (children : List Xml)
  deriving Repr, Inhabited

namespace Xml

/-- A character of an attribute value. -/
def attributeChar (c : Char) : List Char :=
  if c = '&' then "&amp;".toList
  else if c = '<' then "&lt;".toList
  else if c = '>' then "&gt;".toList
  else if c = '"' then "&quot;".toList
  else if c = '\r' then "&#13;".toList
  else if c = '\n' then "&#10;".toList
  else if c = '\t' then "&#09;".toList
  else [c]

def textChar (c : Char) : List Char :=
  if c = '&' then "&amp;".toList
  else if c = '<' then "&lt;".toList
  else if c = '>' then "&gt;".toList
  else [c]

/-- An attribute after the blank that separates it from what comes before. -/
def writeAttribute (key value : String) : String :=
  " " ++ key ++ "=\"" ++ String.ofList (value.toList.flatMap attributeChar) ++ "\""

/-- A tag with its attributes, without brackets. -/
def writeHead (tag : String) (attributes : List (String × String)) : String :=
  tag ++ String.join (attributes.map fun (key, value) => writeAttribute key value)

/-- The line break in front of an element of a given depth; nothing on a single line. -/
def lineBreak (pretty : Bool) (depth : Nat) : String :=
  if pretty then "\n" ++ String.ofList (List.replicate (2 * depth) ' ') else ""

mutual

/-- An element at a given depth. -/
def writeAt (pretty : Bool) (depth : Nat) : Xml → String
  | .leaf tag attributes text =>
      if text.isEmpty then "<" ++ writeHead tag attributes ++ " />"
      else "<" ++ writeHead tag attributes ++ ">" ++ String.ofList (text.toList.flatMap textChar)
        ++ "</" ++ tag ++ ">"
  | .branch tag attributes [] => "<" ++ writeHead tag attributes ++ " />"
  | .branch tag attributes (first :: rest) =>
      "<" ++ writeHead tag attributes ++ ">" ++ writeChildren pretty (depth + 1) (first :: rest)
        ++ lineBreak pretty depth ++ "</" ++ tag ++ ">"

/-- Elements at a given depth, each after its line break. -/
def writeChildren (pretty : Bool) (depth : Nat) : List Xml → String
  | [] => ""
  | child :: rest =>
      lineBreak pretty depth ++ writeAt pretty depth child ++ writeChildren pretty depth rest

end

/-- The line that opens a document. -/
def declaration : String := "<?xml version=\"1.0\" encoding=\"UTF-8\"?>"

/-- A document with the given root. -/
def write (pretty : Bool) (root : Xml) : String :=
  declaration ++ "\n" ++ writeAt pretty 0 root ++ "\n"

end Xml

end ActivityMatrix
