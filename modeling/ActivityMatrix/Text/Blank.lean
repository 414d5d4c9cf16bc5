/-!
# Blank characters

What counts as a blank at the ends of a symbol or of a name: the characters with the Unicode
property `White_Space`, together with the four separators U+001C to U+001F. The zero width space
and the byte order mark are no blanks.
-/

namespace ActivityMatrix.Text

/-- The code point ranges, ends included, of the blank characters. -/
def blankRanges : List (Nat × Nat) :=
  [(0x09, 0x0D), (0x1C, 0x20), (0x85, 0x85), (0xA0, 0xA0), (0x1680, 0x1680), (0x2000, 0x200A),
   (0x2028, 0x2029), (0x202F, 0x202F), (0x205F, 0x205F), (0x3000, 0x3000)]

/-- Whether a code point lies in one of the ranges, ends included. -/
def inRanges (ranges : List (Nat × Nat)) (code : Nat) : Bool :=
  ranges.any fun range => range.1 ≤ code && code ≤ range.2

def isBlank (c : Char) : Bool :=
  inRanges blankRanges c.toNat

/-- Whether a character has the property `White_Space`: all blanks but the four separators. -/
def isWhiteSpace (c : Char) : Bool :=
  isBlank c && !(0x1C ≤ c.toNat && c.toNat ≤ 0x1F)

/-- The characters between the first and the last one that is not to be dropped. -/
def trim (drop : Char → Bool) (cs : List Char) : List Char :=
  ((cs.dropWhile drop).reverse.dropWhile drop).reverse

def trimBlanks (cs : List Char) : List Char :=
  trim isBlank cs

def strip (s : String) : String :=
  String.ofList (trimBlanks s.toList)

/-- The characters of a text without those at its end that satisfy `drop`. -/
def dropEndWhile (drop : Char → Bool) (s : String) : String :=
  String.ofList (s.toList.reverse.dropWhile drop).reverse

/-- The pieces of a list of characters between the occurrences of a separator: always one more
than there are separators. -/
def splitOnChar (separator : Char) : List Char → List (List Char)
  | [] => [[]]
  | c :: rest =>
      match splitOnChar separator rest with
      | [] => [[c]]
      | piece :: pieces =>
          if c = separator then [] :: piece :: pieces else (c :: piece) :: pieces

/-- The pieces of a text between the occurrences of a separator. -/
def splitOn (separator : Char) (s : String) : List String :=
  (splitOnChar separator s.toList).map String.ofList

/-- The pieces of a list of characters between blanks, without the empty ones. -/
def wordsOf (cs : List Char) : List (List Char) :=
  (splitOnChar ' ' (cs.map fun c => if isBlank c then ' ' else c)).filter (!·.isEmpty)

def words (s : String) : List String :=
  (wordsOf s.toList).map String.ofList

/-- Characters in which every line end is a single line feed. -/
def unifyLineEndChars : List Char → List Char
  | '\r' :: '\n' :: rest => '\n' :: unifyLineEndChars rest
  | '\r' :: rest => '\n' :: unifyLineEndChars rest
  | c :: rest => c :: unifyLineEndChars rest
  | [] => []

/-- A text in which every line end is a single line feed. -/
def unifyLineEnds (s : String) : String :=
  String.ofList (unifyLineEndChars s.toList)

end ActivityMatrix.Text
