import ActivityMatrix.Console.EmojiNames
import ActivityMatrix.Text.LetterCase

/-!
# Emoji by name

A name between two colons, without a blank in it, stands for an emoji: `:warning:` for the warning
sign. The case of the letters does not matter. At the end of the name, `-text` and `-emoji` ask for
one of the two ways in which some emoji can be shown. What is no name of an emoji stays as it is,
and its second colon opens no further name.
-/

namespace ActivityMatrix.Console

/-- The members of a list in pairs. -/
def inPairs {α : Type} : List α → List (α × α)
  | first :: second :: rest => (first, second) :: inPairs rest
  | _ => []

/-- The emoji of a name that asks for no skin tone. -/
def plainEmoji? (name : String) : Option String := do
  let initial ← name.toList.head?
  let entries ← emojiSections.lookup initial
  (inPairs (Text.words entries)).lookup name

/-- An emoji in a skin tone, which stands behind its first character. -/
def inTone (tone : Char) : List Char → List Char
  | base :: '\ufe0f' :: rest => base :: tone :: rest
  | base :: rest => base :: tone :: rest
  | [] => []

/-- The name without an ending, if it has that ending. -/
def withoutEnding? (name ending : String) : Option String :=
  if ending.toList.isSuffixOf name.toList then
    some (String.ofList (name.toList.take (name.length - ending.length)))
  else none

/-- The emoji of a name that asks for a skin tone. -/
def tonedEmoji? (name : String) : Option String :=
  skinTones.findSome? fun (toneName, tone) => do
    let base ← withoutEnding? name ("_" ++ toneName ++ "_skin_tone")
    if (Text.words tonedNames).contains base then
      (plainEmoji? base).map fun emoji => String.ofList (inTone tone emoji.toList)
    else none

/-- The emoji of a name in small letters. -/
def emoji? (name : String) : Option String :=
  (plainEmoji? name).orElse fun _ => tonedEmoji? name

/-- The endings of a name that ask for a way of showing the emoji, with the character that asks for
it behind the emoji. -/
def emojiVariants : List (String × String) :=
  [("-emoji", "\ufe0f"), ("-text", "\ufe0e")]

/-- A name and what follows the emoji for the way of showing it. -/
def nameAndVariant (name : String) : String × String :=
  (emojiVariants.findSome? fun (ending, mark) =>
    (withoutEnding? name ending).map fun base => (base, mark)).getD (name, "")

/-- What stands for a name between two colons. -/
def namedEmoji (name : String) : String :=
  let (base, mark) := nameAndVariant name
  match emoji? (Text.lower base) with
  | some emoji => emoji ++ mark
  | none => ":" ++ name ++ ":"

/-- Characters with emoji for their names, the characters `name` having been read, in reverse, since
a colon if there is one. -/
def emojiFrom (name : Option (List Char)) : List Char → List Char
  | [] => match name with
      | some read => ':' :: read.reverse
      | none => []
  | c :: rest =>
      match name with
      | none => if c == ':' then emojiFrom (some []) rest else c :: emojiFrom none rest
      | some read =>
          if c == ':' then
            (namedEmoji (String.ofList read.reverse)).toList ++ emojiFrom none rest
          else if Text.isBlank c then ':' :: read.reverse ++ c :: emojiFrom none rest
          else emojiFrom (some (c :: read)) rest

/-- Characters with emoji for their names. -/
def withEmoji (cs : List Char) : List Char :=
  emojiFrom none cs

end ActivityMatrix.Console
