import ActivityMatrix.Address.Escape
import ActivityMatrix.Address.Label
import ActivityMatrix.Text.DecimalDigit
import ActivityMatrix.Text.LetterCase

/-!
# Hosts

A host is called by four numbers with points between them, by groups of hexadecimal digits in
brackets, or by a name. Names are in small letters. Of a name of ASCII nothing else is asked; any
other name is made of labels, and is sent with each label in ASCII.
-/

namespace ActivityMatrix.Address

/-! ## Four numbers -/

/-- Where four groups of digits may stand after one more character, each of them divided from the
next by a character of any kind: before the first digit of a group at an even number, behind a digit
at an odd one. -/
def groupSteps (c : Char) (state : Nat) : List Nat :=
  let isInside := state % 2 == 1
  (if c.isDigit then [if isInside then state else state + 1] else [])
    ++ if isInside && state < 7 then [state + 1] else []

/-- Whether characters are four groups of digits, each of them divided from the next by a character
of any kind. -/
def looksNumeric (cs : List Char) : Bool :=
  (cs.foldl (fun states c => (states.flatMap (groupSteps c)).eraseDups) [0]).contains 7

/-- Whether characters are a number up to 255 without needless zeros. -/
def isOctet (cs : List Char) : Bool :=
  !cs.isEmpty && cs.length ≤ 3 && cs.all Char.isDigit && (cs.length == 1 || cs.head? != some '0')
    && Text.decimalNumber cs ≤ 255

def isFourNumbers (cs : List Char) : Bool :=
  let parts := Text.splitOnChar '.' cs
  parts.length == 4 && parts.all isOctet

/-! ## Groups of hexadecimal digits -/

def isHexGroup (cs : List Char) : Bool :=
  !cs.isEmpty && cs.length ≤ 4 && cs.all fun c =>
    c.isDigit || ('a' ≤ c && c ≤ 'f') || ('A' ≤ c && c ≤ 'F')

/-- How many groups some parts stand for; nothing if one of them is none. The last part may be four
numbers, which stand for two groups. -/
def groupCount? : List (List Char) → Option Nat
  | [] => some 0
  | [part] => if isHexGroup part then some 1 else if isFourNumbers part then some 2 else none
  | part :: rest => if isHexGroup part then (groupCount? rest).map (· + 1) else none

/-- The characters before and behind the first two colons that follow each other. -/
def splitAtGap? : List Char → Option (List Char × List Char)
  | ':' :: ':' :: rest => some ([], rest)
  | c :: rest => (splitAtGap? rest).map fun (before, after) => (c :: before, after)
  | [] => none

/-- The parts between colons; none of no characters. -/
def colonParts (cs : List Char) : List (List Char) :=
  if cs.isEmpty then [] else Text.splitOnChar ':' cs

/-- Whether characters are eight groups with colons between them, where two colons may stand for at
least one group. -/
def isEightGroups (cs : List Char) : Bool :=
  match splitAtGap? cs with
  | none => groupCount? (colonParts cs) == some 8
  | some (before, after) =>
      (colonParts before).all isHexGroup && (groupCount? (colonParts after)).any fun count =>
        (colonParts before).length + count ≤ 7

/-- Whether characters are eight groups, possibly with a zone behind a percent sign. -/
def isZonedGroups (cs : List Char) : Bool :=
  let groups := cs.takeWhile (· != '%')
  isEightGroups groups &&
    match cs.drop groups.length with
    | '%' :: zone => !zone.isEmpty && !zone.contains '%' && zone.all Punycode.isAscii
    | _ => true

/-! ## Names -/

/-- The characters that divide the labels of a name. -/
def labelDividers : List Char := ['.', '\u3002', '\uff0e', '\uff61']

def labels (cs : List Char) : List (List Char) :=
  Text.splitOnChar '.' (cs.map fun c => if labelDividers.contains c then '.' else c)

def nameLimit : Nat := 253

/-- A name in small letters as it is sent; nothing if it is none. There may be a point at its
end. -/
def sentName? (cs : List Char) : Option (List Char) := do
  let parts := labels cs
  let hasEnd := parts.getLast?.any List.isEmpty
  let sent ← (if hasEnd then parts.dropLast else parts).mapM sentLabel?
  let name := ['.'].intercalate sent
  if sent.isEmpty || nameLimit < name.length then none
  else some (if hasEnd then name ++ ['.'] else name)

/-! ## Hosts -/

/-- The characters between brackets, if there are brackets around them. -/
def inBrackets? : List Char → Option (List Char)
  | '[' :: rest => if rest.getLast? == some ']' then some rest.dropLast else none
  | _ => none

/-- A host as it is sent, without brackets; nothing if it is none. -/
def sentHost? (cs : List Char) : Option (List Char) :=
  if looksNumeric cs then if isFourNumbers cs then some cs else none
  else match inBrackets? cs with
  | some inner => if isZonedGroups inner then some inner else none
  | none =>
      let lower := (Text.lower (String.ofList cs)).toList
      if cs.all Punycode.isAscii then some (escape unsafeInHost lower) else sentName? lower

end ActivityMatrix.Address
