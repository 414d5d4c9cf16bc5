import ActivityMatrix.Document

/-!
# Reading JSON

The document that a JSON text holds, or nothing when the text is no JSON. Beyond the standard the
three words `NaN`, `Infinity` and `-Infinity` are numbers. A repeated key of an object keeps its
first place and its last value. A number with a point or an exponent is a floating-point number,
any other an integer of any size.
-/

namespace ActivityMatrix.Json

def isSpace (c : Char) : Bool :=
  c == ' ' || c == '\t' || c == '\n' || c == '\r'

def skipSpace (cs : List Char) : List Char :=
  cs.dropWhile isSpace

def hexValue? (c : Char) : Option Nat :=
  if c.isDigit then some (c.toNat - '0'.toNat)
  else if 'a' ≤ c && c ≤ 'f' then some (c.toNat - 'a'.toNat + 10)
  else if 'A' ≤ c && c ≤ 'F' then some (c.toNat - 'A'.toNat + 10)
  else none

/-- The value of hexadecimal digits, the first the most significant. -/
def hexNumber? (digits : List Char) : Option Nat :=
  digits.foldlM (fun n c => (hexValue? c).map (16 * n + ·)) 0

/-- The character for a one-letter escape. -/
def letterEscape? (c : Char) : Option Char :=
  if c = '"' || c = '\\' || c = '/' then some c
  else if c = 'b' then some '\x08'
  else if c = 'f' then some '\x0c'
  else if c = 'n' then some '\n'
  else if c = 'r' then some '\r'
  else if c = 't' then some '\t'
  else none

/-- Whether a unit is the first half of a pair of units. -/
def isLeadingUnit (unit : Nat) : Bool := 0xD800 ≤ unit && unit < 0xDC00

/-- Whether a unit is the second half of a pair of units. -/
def isTrailingUnit (unit : Nat) : Bool := 0xDC00 ≤ unit && unit < 0xE000

/-- The character of a unit, the replacement character for half of a pair. -/
def unitChar (unit : Nat) : Char :=
  if isLeadingUnit unit || isTrailingUnit unit then '\uFFFD' else Char.ofNat unit

/-- The character of a pair of units. -/
def pairChar (leading trailing : Nat) : Char :=
  Char.ofNat (0x10000 + (leading - 0xD800) * 0x400 + (trailing - 0xDC00))

/-- The characters up to a closing double quote, put in front of `done` in reverse, and what
follows the quote. -/
def readText (done : List Char) : List Char → Option (String × List Char)
  | [] => none
  | '"' :: rest => some (String.ofList done.reverse, rest)
  | '\\' :: 'u' :: a :: b :: c :: d :: '\\' :: 'u' :: e :: f :: g :: h :: rest =>
      match hexNumber? [a, b, c, d], hexNumber? [e, f, g, h] with
      | some first, some second =>
          -- two escapes may be the halves of one character
          if isLeadingUnit first && isTrailingUnit second then
            readText (pairChar first second :: done) rest
          else readText (unitChar first :: done) ('\\' :: 'u' :: e :: f :: g :: h :: rest)
      | _, _ => none
  | '\\' :: 'u' :: a :: b :: c :: d :: rest => do
      readText (unitChar (← hexNumber? [a, b, c, d]) :: done) rest
  | '\\' :: c :: rest => do
      readText ((← letterEscape? c) :: done) rest
  | c :: rest => if c.toNat < 0x20 then none else readText (c :: done) rest

/-- The value of decimal digits, the first the most significant. -/
def decimalNumber (digits : List Char) : Nat :=
  digits.foldl (fun n c => 10 * n + (c.toNat - '0'.toNat)) 0

/-- The whole part of a number: a zero, or digits of which the first is none. -/
def readWhole : List Char → Option (List Char × List Char)
  | '0' :: rest => some (['0'], rest)
  | cs =>
      let digits := cs.takeWhile Char.isDigit
      if digits.isEmpty then none else some (digits, cs.dropWhile Char.isDigit)

/-- The digits after a point, if a point with digits after it is next. -/
def readFraction : List Char → Option (List Char) × List Char
  | '.' :: rest =>
      let digits := rest.takeWhile Char.isDigit
      if digits.isEmpty then (none, '.' :: rest) else (some digits, rest.dropWhile Char.isDigit)
  | cs => (none, cs)

/-- The sign and the digits of an exponent. -/
def readPower (cs : List Char) : Option (Int × List Char) :=
  let (negative, unsigned) := match cs with
    | '-' :: rest => (true, rest)
    | '+' :: rest => (false, rest)
    | _ => (false, cs)
  let digits := unsigned.takeWhile Char.isDigit
  if digits.isEmpty then none
  else
    let size : Int := decimalNumber digits
    some (if negative then -size else size, unsigned.dropWhile Char.isDigit)

/-- The exponent of a number, if one is next. -/
def readExponent : List Char → Option Int × List Char
  | c :: rest =>
      if c = 'e' || c = 'E' then
        match readPower rest with
        | some (power, after) => (some power, after)
        | none => (none, c :: rest)
      else (none, c :: rest)
  | [] => (none, [])

/-- A number without its sign. -/
def readUnsigned (negative : Bool) (cs : List Char) : Option (Scalar × List Char) := do
  let (whole, afterWhole) ← readWhole cs
  let (fraction, afterFraction) := readFraction afterWhole
  let (power, rest) := readExponent afterFraction
  -- a number is whole if it is written without a point and an exponent
  let scalar := match fraction, power with
    | none, none =>
        let size : Int := decimalNumber whole
        Scalar.integer (if negative then -size else size)
    | _, _ =>
        let digits := fraction.getD []
        .float (.ofDecimal negative (decimalNumber (whole ++ digits))
          (power.getD 0 - digits.length))
  return (scalar, rest)

/-- The rest of a text after a word that it has to start with. -/
def afterWord? (word : String) (cs : List Char) : Option (List Char) :=
  if word.toList.isPrefixOf cs then some (cs.drop word.length) else none

/-- The words that stand for scalars. -/
def words : List (String × Scalar) :=
  [("null", .null), ("true", .boolean true), ("false", .boolean false),
   ("NaN", .float .notANumber), ("Infinity", .float (.infinite false)),
   ("-Infinity", .float (.infinite true))]

/-- A scalar other than a text. -/
def readScalar (cs : List Char) : Option (Scalar × List Char) :=
  match words.findSome? fun (word, scalar) => (afterWord? word cs).map (scalar, ·) with
  | some found => some found
  | none => match cs with
    | '-' :: rest => readUnsigned true rest
    | _ => readUnsigned false cs

mutual

/-- A value at the start of a text, with what follows it. The fuel bounds the number of steps;
every step takes a character. -/
def readValue : Nat → List Char → Option (Document × List Char)
  | 0, _ => none
  | fuel + 1, cs =>
      match cs with
      | '"' :: rest => do
          let (value, after) ← readText [] rest
          return (.text value, after)
      | '[' :: rest =>
          match skipSpace rest with
          | ']' :: after => some (.sequence [], after)
          | first => do
              let (items, after) ← readItems fuel first
              return (.sequence items, after)
      | '\x7b' :: rest =>
          match skipSpace rest with
          | '\x7d' :: after => some (.mapping [], after)
          | first => do
              let (entries, after) ← readEntries fuel first
              return (.ofEntries entries, after)
      | _ => do
          let (scalar, after) ← readScalar cs
          return (.scalar scalar, after)

def readItems : Nat → List Char → Option (List Document × List Char)
  | 0, _ => none
  | fuel + 1, cs => do
      let (item, after) ← readValue fuel cs
      match skipSpace after with
      | ']' :: rest => return ([item], rest)
      | ',' :: rest =>
          let (items, after) ← readItems fuel (skipSpace rest)
          return (item :: items, after)
      | _ => none

def readEntries : Nat → List Char → Option (List (Scalar × Document) × List Char)
  | 0, _ => none
  | fuel + 1, cs => do
      let '"' :: start := cs | none
      let (key, afterKey) ← readText [] start
      let ':' :: colon := skipSpace afterKey | none
      let (value, after) ← readValue fuel (skipSpace colon)
      match skipSpace after with
      | '\x7d' :: rest => return ([(.text key, value)], rest)
      | ',' :: rest =>
          let (entries, after) ← readEntries fuel (skipSpace rest)
          return ((.text key, value) :: entries, after)
      | _ => none

end

def read? (text : String) : Option Document := do
  let cs := skipSpace text.toList
  let (document, rest) ← readValue (2 * cs.length + 1) cs
  if (skipSpace rest).isEmpty then some document else none

end ActivityMatrix.Json
