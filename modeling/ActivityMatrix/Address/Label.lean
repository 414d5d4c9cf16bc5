import ActivityMatrix.Address.LabelTable
import ActivityMatrix.Address.Punycode
import ActivityMatrix.Text.Composition
import ActivityMatrix.Text.Marks

/-!
# Labels

The parts between the points of a host are labels. A label is composed text of letters, digits and
marks, with hyphens inside but not in the third and the fourth place. Some characters may stand only
beside certain others, and what is written from right to left does not mix with what is written from
left to right. A label that is not of ASCII is sent in Punycode, with a mark of that before it.
-/

namespace ActivityMatrix.Address

/-! ## Characters that go with others -/

/-- Whether a character may stand anywhere in a label. -/
def isLabelCharacter (c : Char) : Bool :=
  Text.inRanges labelRanges c.toNat
    || alternatingLabelRanges.any fun range =>
      range.1 ≤ c.toNat && c.toNat ≤ range.2 && (c.toNat - range.1) % 2 == 0

/-- Whether the first of some characters is of one of the ranges. -/
def startsIn (ranges : List (Nat × Nat)) (cs : List Char) : Bool :=
  cs.head?.any fun c => Text.inRanges ranges c.toNat

/-- Whether a character is passed over when it is asked which letters join. -/
def isJoiningPassed (c : Char) : Bool :=
  Text.inRanges Text.nonspacingMarks c.toNat || Text.inRanges joiningPassedRanges c.toNat

/-- Whether the letters on the two sides of a place join across it; those before it are given in
reverse. -/
def joinsBetween (before after : List Char) : Bool :=
  startsIn (bothSidesJoiningRanges ++ forwardJoiningRanges) (before.dropWhile isJoiningPassed)
    && startsIn (bothSidesJoiningRanges ++ backwardJoiningRanges) (after.dropWhile isJoiningPassed)

/-- Whether a place comes after a mark that takes the vowel from a consonant. -/
def followsVirama (before : List Char) : Bool :=
  before.head?.any fun c => Text.combiningClass c.toNat == Text.viramaClass

def arabicDigits : List (Nat × Nat) := [(0x660, 0x669)]

def persianDigits : List (Nat × Nat) := [(0x6F0, 0x6F9)]

/-- Whether a character may stand in a label between other characters; those before it are given in
reverse. -/
def fitsBetween (before : List Char) (c : Char) (after : List Char) : Bool :=
  let hasOf (ranges : List (Nat × Nat)) := (before ++ after).any fun d =>
    Text.inRanges ranges d.toNat
  isLabelCharacter c ||
    match c with
    -- the characters that may stand beside certain others only
    | '\u00b7' => before.head? == some 'l' && after.head? == some 'l'
    | '\u0375' => startsIn greekRanges after
    | '\u05f3' => startsIn hebrewRanges before
    | '\u05f4' => startsIn hebrewRanges before
    | '\u30fb' => hasOf japaneseRanges
    | '\u200c' => followsVirama before || joinsBetween before after
    | '\u200d' => followsVirama before
    | _ =>
        (Text.inRanges arabicDigits c.toNat && !hasOf persianDigits)
          || (Text.inRanges persianDigits c.toNat && !hasOf arabicDigits)

/-- Whether characters may follow each other in a label; those before them are given in reverse. -/
def allFit (before : List Char) : List Char → Bool
  | [] => true
  | c :: rest => fitsBetween before c rest && allFit (c :: before) rest

/-! ## The way of writing -/

/-- Which way a character is written. -/
inductive Direction where
  | rightwards
  | leftwards
  /-- A digit that goes with letters that are written leftwards. -/
  | leftwardsDigit
  /-- A digit that goes with all letters. -/
  | commonDigit
  /-- Like the characters beside it. -/
  | neutral
  /-- Like the character before it. -/
  | mark
  deriving DecidableEq, Repr, Inhabited

namespace Direction

/-- Which way a character is written. -/
def ofChar (c : Char) : Direction :=
  let isIn (ranges : List (Nat × Nat)) := Text.inRanges ranges c.toNat
  if isIn rightToLeftRanges then leftwards
  else if isIn rightToLeftDigitRanges then leftwardsDigit
  else if isIn commonDigitRanges then commonDigit
  else if isIn neutralRanges then neutral
  else if isIn Text.nonspacingMarks && !isIn leftToRightMarkRanges then mark
  else rightwards

/-- Whether what is written leftwards may end with the character. -/
def endsLeftwards : Direction → Bool
  | leftwards | leftwardsDigit | commonDigit => true
  | _ => false

end Direction

/-- Whether characters are all written in one way: with nothing that is written leftwards, or with
nothing that is written rightwards, a letter first and a letter or a digit last, and digits of one
kind. -/
def keepsDirection (cs : List Char) : Bool :=
  let directions := cs.map Direction.ofChar
  let has := directions.contains
  if has .leftwards || has .leftwardsDigit then
    directions.head? == some .leftwards && !has .rightwards
      && !(has .leftwardsDigit && has .commonDigit)
      && (directions.reverse.dropWhile (· == .mark)).head?.any Direction.endsLeftwards
  else true

/-! ## Labels -/

def isLabel (cs : List Char) : Bool :=
  !cs.isEmpty && Text.isComposed cs
    && cs.head? != some '-' && cs.getLast? != some '-' && (cs.drop 2).take 2 != ['-', '-']
    && !cs.head?.any Text.isMark && allFit [] cs && keepsDirection cs

/-- What a label in Punycode starts with. -/
def punycodeMark : List Char := "xn--".toList

def labelLimit : Nat := 63

/-- Whether characters of ASCII are a label, possibly in Punycode. -/
def isAsciiLabel (cs : List Char) : Bool :=
  if punycodeMark.isPrefixOf cs then
    let told := cs.drop punycodeMark.length
    !told.isEmpty && told.getLast? != some '-' && (Punycode.decode? told).any isLabel
  else isLabel cs

/-- A label in small letters as it is sent; nothing if it is none. -/
def sentLabel? (cs : List Char) : Option (List Char) :=
  if labelLimit < cs.length then none
  else if cs.all Punycode.isAscii then if isAsciiLabel cs then some cs else none
  else if isLabel cs then
    let sent := punycodeMark ++ Punycode.encode cs
    if sent.length ≤ labelLimit then some sent else none
  else none

end ActivityMatrix.Address
