/-!
# Floating-point numbers as exact fractions

A finite number is a sign, a whole mantissa below 2 ^ 53 and a binary exponent. Decimal text is
rounded to the nearest such number, ties to the even mantissa, and a number is shown with the
fewest decimal digits that read back as it. All arithmetic is on natural numbers.
-/

namespace ActivityMatrix

/-- A binary floating-point number: `finite negative m e` is `m * 2 ^ e` with a sign. -/
inductive Float64 where
  | finite (negative : Bool) (mantissa : Nat) (exponent : Int)
  | infinite (negative : Bool)
  | notANumber
  deriving DecidableEq, Repr

namespace Float64

/-- The exponent of the least positive number. -/
def leastExponent : Int := -1074

/-- The exponent of the greatest numbers. -/
def greatestExponent : Int := 971

/-- The quotient rounded to the nearest natural number, a tie to the even one. -/
def roundDiv (numerator denominator : Nat) : Nat :=
  let quotient := numerator / denominator
  let twice := 2 * (numerator % denominator)
  if twice < denominator || (twice == denominator && quotient % 2 == 0) then quotient
  else quotient + 1

/-- A fraction divided by a power of two, as a fraction. -/
def scaleDown (numerator denominator : Nat) (exponent : Int) : Nat × Nat :=
  if exponent < 0 then (numerator * Nat.pow 2 (-exponent).toNat, denominator)
  else (numerator, denominator * Nat.pow 2 exponent.toNat)

/-- The number nearest to a fraction. -/
def ofFraction (negative : Bool) (numerator denominator : Nat) : Float64 :=
  if numerator = 0 then .finite negative 0 leastExponent
  else
    let guess : Int := (numerator.log2 : Int) - (denominator.log2 : Int) - 52
    -- the quotient has 52 or 53 bits under the guess
    let scaled := scaleDown numerator denominator guess
    let fitted := if scaled.1 / scaled.2 < Nat.pow 2 52 then guess - 1 else guess
    let exponent := max fitted leastExponent
    let fraction := scaleDown numerator denominator exponent
    let mantissa := roundDiv fraction.1 fraction.2
    -- rounding up may reach the next power of two
    let (mantissa, exponent) :=
      if mantissa = Nat.pow 2 53 then (Nat.pow 2 52, exponent + 1) else (mantissa, exponent)
    if exponent > greatestExponent then .infinite negative
    else .finite negative mantissa exponent

/-- The number nearest to `digits * 10 ^ exponent`. -/
def ofDecimal (negative : Bool) (digits : Nat) (exponent : Int) : Float64 :=
  if digits = 0 then .finite negative 0 leastExponent
  else
    let magnitude := exponent + (Nat.toDigits 10 digits).length
    -- far out of range on both sides, so that the powers below stay small
    if magnitude > 400 then .infinite negative
    else if magnitude < -400 then .finite negative 0 leastExponent
    else if exponent < 0 then ofFraction negative digits (Nat.pow 10 (-exponent).toNat)
    else ofFraction negative (digits * Nat.pow 10 exponent.toNat) 1

def isZero : Float64 → Bool
  | .finite _ mantissa _ => mantissa == 0
  | _ => false

/-- Whether a number has the value of a whole number. -/
def equalsInt (value : Float64) (n : Int) : Bool :=
  match value with
  | .finite negative mantissa exponent =>
      let signed : Int := if negative then -mantissa else mantissa
      if exponent < 0 then signed == n * Nat.pow 2 (-exponent).toNat
      else signed * Nat.pow 2 exponent.toNat == n
  | _ => false

/-- Whether two numbers have the same value: the two zeros do, and nothing equals what is not a
number. -/
def sameValue : Float64 → Float64 → Bool
  | .notANumber, _ => false
  | _, .notANumber => false
  | .infinite a, .infinite b => a == b
  | .finite a m e, .finite b n f => (m == 0 && n == 0) || (a == b && m == n && e == f)
  | _, _ => false

/-! ## The shortest decimal digits -/

/-- The reals that round to `mantissa * 2 ^ exponent`, in units of `2 ^ (exponent - 2)`: the lower
end, the number itself, and the upper end. -/
def roundingInterval (mantissa : Nat) (exponent : Int) : Nat × Nat × Nat :=
  let low := if mantissa = Nat.pow 2 52 && exponent > leastExponent then 4 * mantissa - 1
    else 4 * mantissa - 2
  (low, 4 * mantissa, 4 * mantissa + 2)

/-- Whether `digits * 10 ^ place` lies in the rounding interval, whose ends belong to it when the
mantissa is even. -/
def readsBack (mantissa : Nat) (exponent : Int) (digits : Nat) (place : Int) : Bool :=
  let (low, _, high) := roundingInterval mantissa exponent
  let unit := exponent - 2
  let tens := Nat.pow 10 place.natAbs
  let twos := Nat.pow 2 unit.natAbs
  let point := (if place < 0 then digits else digits * tens) * (if unit < 0 then twos else 1)
  let scale := (if place < 0 then tens else 1) * (if unit < 0 then 1 else twos)
  if mantissa % 2 = 0 then low * scale ≤ point && point ≤ high * scale
  else low * scale < point && point < high * scale

def toFraction (mantissa : Nat) (exponent : Int) : Nat × Nat :=
  if exponent < 0 then (mantissa, Nat.pow 2 (-exponent).toNat)
  else (mantissa * Nat.pow 2 exponent.toNat, 1)

/-- A positive fraction over `10 ^ place`: the whole part, and the order of the rest against one
half. -/
def onGrid (mantissa : Nat) (exponent place : Int) : Nat × Ordering :=
  let (numerator, denominator) := toFraction mantissa exponent
  let numerator := if place < 0 then numerator * Nat.pow 10 (-place).toNat else numerator
  let denominator := if place < 0 then denominator else denominator * Nat.pow 10 place.toNat
  (numerator / denominator, compare (2 * (numerator % denominator)) denominator)

/-- The greatest `place` with `10 ^ place` not above a positive number, searched downwards from
`start`. A number below `2 ^ (e + 53)` has its first digit at most ten places above
`3 (e + 53) / 10`, and a number of few bits at most thirty places below that. -/
def leadingPlace (mantissa : Nat) (exponent : Int) : Nat → Int → Int
  | 0, start => start
  | fuel + 1, start =>
      if (onGrid mantissa exponent start).1 = 0 then leadingPlace mantissa exponent fuel (start - 1)
      else start

/-- The candidate on one decimal grid: the nearer of the two neighbours that reads back. -/
def candidate? (mantissa : Nat) (exponent place : Int) : Option Nat :=
  let (below, rest) := onGrid mantissa exponent place
  let downFits := readsBack mantissa exponent below place
  let upFits := readsBack mantissa exponent (below + 1) place
  let preferDown := rest == .lt || (rest == .eq && below % 2 == 0)
  if downFits && (preferDown || !upFits) then some below
  else if upFits then some (below + 1)
  else none

/-- The digits and the place of the last digit of the first grid, from coarse to fine, that holds a
candidate. -/
def firstCandidate (mantissa : Nat) (exponent : Int) : Nat → Int → Nat × Int
  | 0, place => ((onGrid mantissa exponent place).1, place)
  | fuel + 1, place =>
      match candidate? mantissa exponent place with
      | some digits => (digits, place)
      | none => firstCandidate mantissa exponent fuel (place - 1)

/-- The fewest digits of a positive number that read back as it, with the place of the first
digit. -/
def shortestDigits (mantissa : Nat) (exponent : Int) : List Char × Int :=
  let lead := leadingPlace mantissa exponent 40 ((exponent + 53) * 3 / 10 + 10)
  -- with 17 digits some candidate reads back in any case
  let (digits, place) := firstCandidate mantissa exponent 17 lead
  let shown := Nat.toDigits 10 digits
  ((shown.reverse.dropWhile (· == '0')).reverse, place + shown.length - 1)

/-- Digits written with a point: positional from `1e-4` to below `1e16`, and otherwise with an
exponent of at least two digits and a sign. A whole number keeps one zero after the point. -/
def layOut (digits : List Char) (place : Int) : List Char :=
  if place < -4 || place ≥ 16 then
    let point := match digits.drop 1 with
      | [] => []
      | rest => '.' :: rest
    let power := Nat.toDigits 10 place.natAbs
    let padded := if power.length < 2 then '0' :: power else power
    digits.take 1 ++ point ++ 'e' :: (if place < 0 then '-' else '+') :: padded
  else if place < 0 then
    '0' :: '.' :: List.replicate ((-place).toNat - 1) '0' ++ digits
  else
    let whole := place.toNat + 1
    let padded := digits ++ List.replicate (whole - digits.length) '0'
    let rest := digits.drop whole
    padded.take whole ++ '.' :: (if rest.isEmpty then ['0'] else rest)

/-- The text of a number, with its own spellings for the infinities and for what is not a
number. -/
def render (infinity notANumber : String) : Float64 → String
  | .notANumber => notANumber
  | .infinite negative => if negative then "-" ++ infinity else infinity
  | .finite negative mantissa exponent =>
      let body := if mantissa = 0 then ['0', '.', '0'] else
        let (digits, place) := shortestDigits mantissa exponent
        layOut digits place
      String.ofList (if negative then '-' :: body else body)

/-- The text of a number in messages. -/
def text (value : Float64) : String :=
  render "inf" "nan" value

end Float64

end ActivityMatrix
