import ActivityMatrix.Console.Colour

/-!
# Styles

A style is described by words: attributes such as `bold`, or a short form such as `b`, each possibly
after `not`; a colour; a colour after `on` for the background; and an address after `link`. Two
descriptions of the same style have the same normal form, in which the words stand in a fixed order.
-/

namespace ActivityMatrix.Console

def attributeNames : List String :=
  ["bold", "dim", "italic", "underline", "blink", "blink2", "reverse", "conceal", "strike",
   "underline2", "frame", "encircle", "overline"]

/-- The short forms of attributes. -/
def attributeShorts : List (String × String) :=
  [("d", "dim"), ("b", "bold"), ("i", "italic"), ("u", "underline"), ("r", "reverse"),
   ("c", "conceal"), ("s", "strike"), ("uu", "underline2"), ("o", "overline")]

/-- The attribute that a word calls. -/
def attribute? (word : String) : Option String :=
  if attributeNames.contains word then some word else attributeShorts.lookup word

/-- How text is shown. -/
structure Style where
  /-- The attributes that are set or, after `not`, unset; later ones come first. -/
  attributes : List (String × Bool) := []
  colour : Option String := none
  background : Option String := none
  link : Option String := none
  deriving DecidableEq, Repr, Inhabited

/-- Why a text describes no style. -/
inductive StyleError where
  | unknownWord
  | emptyPart
  deriving DecidableEq, Repr, Inhabited

namespace Style

/-- The colour that a word calls. -/
def readColour (word : String) : Except StyleError String :=
  (Console.colour word).mapError fun
    | .unknown => .unknownWord
    | .emptyPart => .emptyPart

/-- A style changed by words. -/
def readFrom (style : Style) : List String → Except StyleError Style
  | [] => .ok style
  | [word] => readLast style word
  | word :: next :: rest =>
      let small := Text.lower word
      if small == "on" then do
        readFrom { style with background := some (← readColour next) } rest
      else if small == "not" then
        match attribute? next with
        | some name => readFrom { style with attributes := (name, false) :: style.attributes } rest
        | none => .error .unknownWord
      else if small == "link" then readFrom { style with link := some next } rest
      else do readFrom (← readLast style word) (next :: rest)
where
  /-- A style changed by a word that needs no other behind it. -/
  readLast (style : Style) (word : String) : Except StyleError Style :=
    let small := Text.lower word
    match attribute? small with
    | some name => .ok { style with attributes := (name, true) :: style.attributes }
    | none => do return { style with colour := some (← readColour small) }

/-- The style that a text describes. -/
def read (text : String) : Except StyleError Style :=
  if Text.strip text == "none" then .ok {} else readFrom {} (Text.words text)

/-- The words for an attribute, if the style says anything about it. -/
def attributeWords (style : Style) (name : String) : List String :=
  match style.attributes.lookup name with
  | some true => [name]
  | some false => ["not", name]
  | none => []

/-- The words for something that may be missing, behind others. -/
def optionalWords (before : List String) : Option String → List String
  | some word => before ++ [word]
  | none => []

/-- The normal form of the description. -/
def text (style : Style) : String :=
  let words := attributeNames.flatMap style.attributeWords ++ optionalWords [] style.colour
    ++ optionalWords ["on"] style.background ++ optionalWords ["link"] style.link
  if words.isEmpty then "none" else " ".intercalate words

end Style

/-- The name of a style: the normal form of its description or, if a word of this is unknown, the
description in small letters, without blanks at its ends. -/
def styleName (text : String) : Except StyleError String :=
  match Style.read text with
  | .ok style => .ok style.text
  | .error .unknownWord => .ok (Text.lower (Text.strip text))
  | .error .emptyPart => .error .emptyPart

end ActivityMatrix.Console
