import ActivityMatrix.Text.Marks
import ActivityMatrix.Text.Unassigned

/-!
# Quoted names

How a message shows a text so that its ends and its invisible characters can be seen: between
single quotes, or between double quotes when the text holds a single quote and no double one; with
a backslash before a backslash and before the quote in use; and with the code point in hexadecimal
for every character that leaves no mark of its own.
-/

namespace ActivityMatrix.Text

/-- Whether a character leaves no mark when it is printed: controls, blanks other than the space,
format characters, and what is no character that everybody knows. Of ASCII, all but the controls
leave a mark. -/
def isUnmarked (c : Char) : Bool :=
  if c.toNat < 0x7f then c.toNat < 0x20
  else c.toNat < 0xa0 || isBlank c || isFormat c || isUnassigned c

/-- The last `width` hexadecimal digits of a number, in lower case. -/
def hexDigits : Nat → Nat → List Char
  | 0, _ => []
  | width + 1, n => hexDigits width (n / 16) ++ [Nat.digitChar (n % 16)]

/-- The code point of a character after a backslash: `x` and two digits, `u` and four, or `U` and
eight, whichever is the first to be wide enough. -/
def codePointEscape (c : Char) : List Char :=
  if c.toNat < 0x100 then '\\' :: 'x' :: hexDigits 2 c.toNat
  else if c.toNat < 0x10000 then '\\' :: 'u' :: hexDigits 4 c.toNat
  else '\\' :: 'U' :: hexDigits 8 c.toNat

/-- One character between two `quote`s. -/
def quotedChar (quote c : Char) : List Char :=
  if c = '\\' || c = quote then ['\\', c]
  else if c = '\n' then ['\\', 'n']
  else if c = '\r' then ['\\', 'r']
  else if c = '\t' then ['\\', 't']
  else if isUnmarked c then codePointEscape c
  else [c]

/-- The quote that a text is shown between. -/
def quoteFor (cs : List Char) : Char :=
  if cs.contains '\'' && !cs.contains '"' then '"' else '\''

def quoted (s : String) : String :=
  let quote := quoteFor s.toList
  String.ofList (quote :: s.toList.flatMap (quotedChar quote) ++ [quote])

/-- A list in brackets, each member shown by `render`. -/
def bracketed {α : Type} (render : α → String) (items : List α) : String :=
  "[" ++ ", ".intercalate (items.map render) ++ "]"

def quotedList (names : List String) : String :=
  bracketed quoted names

end ActivityMatrix.Text
