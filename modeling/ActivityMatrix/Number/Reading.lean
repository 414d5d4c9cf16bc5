import ActivityMatrix.Number.Float64
import ActivityMatrix.Text.Blank

/-!
# Reading numbers

The floating-point number that a text stands for: digits with or without a point and an exponent,
or a word for an infinity or for what is no number, with or without a sign. White space at the ends
does not count, and single underscores may stand between digits.
-/

namespace ActivityMatrix.Float64

/-- The value of decimal digits, the first the most significant. -/
def decimalValue (digits : List Char) : Nat :=
  digits.foldl (fun n c => 10 * n + (c.toNat - '0'.toNat)) 0

/-- A sign, if there is one, and what follows it: whether it is a minus comes first. -/
def splitSign : List Char → Bool × List Char
  | '-' :: rest => (true, rest)
  | '+' :: rest => (false, rest)
  | cs => (false, cs)

/-- The value of an exponent, which is all that is left of a text. -/
def exponent? : List Char → Option Int
  | [] => some 0
  | c :: rest =>
      if c = 'e' || c = 'E' then
        let (negative, digits) := splitSign rest
        if digits.isEmpty || !digits.all Char.isDigit then none
        else
          let size : Int := decimalValue digits
          some (if negative then -size else size)
      else none

def ofUnsigned? (negative : Bool) (cs : List Char) : Option Float64 :=
  let word := String.ofList (cs.map Char.toLower)
  if word == "inf" || word == "infinity" then some (.infinite negative)
  else if word == "nan" then some .notANumber
  else
    let whole := cs.takeWhile Char.isDigit
    let afterWhole := cs.dropWhile Char.isDigit
    let (fraction, rest) := match afterWhole with
      | '.' :: after => (after.takeWhile Char.isDigit, after.dropWhile Char.isDigit)
      | _ => ([], afterWhole)
    if (whole ++ fraction).isEmpty then none
    else (exponent? rest).map fun power =>
      ofDecimal negative (decimalValue (whole ++ fraction)) (power - fraction.length)

/-- The number that characters stand for. -/
def ofChars? (cs : List Char) : Option Float64 :=
  let (negative, rest) := splitSign cs
  ofUnsigned? negative rest

/-- Characters without their underscores, if each of these stands between two others. -/
def withoutUnderscores? (cs : List Char) : Option (List Char) :=
  if cs.head? == some '_' || cs.getLast? == some '_'
      || (cs.zip cs.tail).contains ('_', '_') then none
  else some (cs.filter (· != '_'))

def ofText? (text : String) : Option Float64 :=
  let trimmed := Text.trim Text.isWhiteSpace text.toList
  (ofChars? trimmed).orElse fun _ => (withoutUnderscores? trimmed).bind ofChars?

end ActivityMatrix.Float64
