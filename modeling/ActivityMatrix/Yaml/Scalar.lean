import ActivityMatrix.Document
import ActivityMatrix.Number.Reading

/-!
# Plain YAML scalars

What a text without quotes stands for: nothing, a truth value, a number, or itself. The words for
truth values are those of the older version of the format, `yes` and `off` among them. A number
with a leading zero is octal, and one with a point is a floating-point number; a number with an
exponent but without a point is a text.
-/

namespace ActivityMatrix.Yaml

/-- The texts that stand for nothing. -/
def nullWords : List String := ["", "~", "null", "Null", "NULL"]

def trueWords : List String :=
  ["yes", "Yes", "YES", "true", "True", "TRUE", "on", "On", "ON"]

def falseWords : List String :=
  ["no", "No", "NO", "false", "False", "FALSE", "off", "Off", "OFF"]

def infinityWords : List String := [".inf", ".Inf", ".INF"]

/-- The texts that stand for what is no number. -/
def notANumberWords : List String := [".nan", ".NaN", ".NAN"]

/-- The texts that are kept for the format itself. -/
def reservedWords : List String := ["=", "<<"]

/-- The value of a digit in a base of at most sixteen. -/
def digitValue? (base : Nat) (c : Char) : Option Nat :=
  let value :=
    if c.isDigit then some (c.toNat - '0'.toNat)
    else if 'a' ≤ c && c ≤ 'f' then some (c.toNat - 'a'.toNat + 10)
    else if 'A' ≤ c && c ≤ 'F' then some (c.toNat - 'A'.toNat + 10)
    else none
  value.filter (· < base)

/-- The value of digits in a base, the first the most significant. -/
def digits? (base : Nat) (cs : List Char) : Option Nat :=
  cs.foldlM (fun n c => (digitValue? base c).map (base * n + ·)) 0

/-- The value of at least one digit in a base, underscores among them being passed over. -/
def inBase? (base : Nat) (cs : List Char) : Option Nat :=
  let digits := cs.filter (· != '_')
  if digits.isEmpty then none else digits? base digits

/-- The value of a whole number without its sign. -/
def whole? (cs : List Char) : Option Nat :=
  match cs with
  | ['0'] => some 0
  | '0' :: 'b' :: rest => inBase? 2 rest
  | '0' :: 'x' :: rest => inBase? 16 rest
  | '0' :: rest => inBase? 8 ('0' :: rest)
  | '_' :: _ => none
  | _ => inBase? 10 cs

/-- Whether characters are an exponent with a sign. -/
def isSignedExponent : List Char → Bool
  | e :: sign :: digits =>
      (e == 'e' || e == 'E') && (sign == '+' || sign == '-') && !digits.isEmpty
        && digits.all Char.isDigit
  | _ => false

/-- Whether characters are a number with a point, without its sign. -/
def isPointed (cs : List Char) : Bool :=
  let whole := cs.takeWhile fun c => c.isDigit || c == '_'
  match cs.drop whole.length with
  | '.' :: rest =>
      let fraction := rest.takeWhile fun c => c.isDigit || c == '_'
      let after := rest.drop fraction.length
      let begins := if whole.isEmpty then fraction.head?.any Char.isDigit
        else whole.head?.any Char.isDigit
      begins && (after.isEmpty || isSignedExponent after)
  | _ => false

/-- The number with a point that characters stand for. One that starts with the point has no
sign. -/
def pointed? (cs : List Char) : Option Float64 :=
  let (negative, unsigned) := Float64.splitSign cs
  let word := String.ofList unsigned
  if infinityWords.contains word then some (.infinite negative)
  else if notANumberWords.contains (String.ofList cs) then some .notANumber
  else if isPointed unsigned && (cs == unsigned || unsigned.head? != some '.') then
    Float64.ofUnsigned? negative (unsigned.filter (· != '_'))
  else none

/-- What a plain text stands for; nothing if the text is kept for the format itself. -/
def resolve? (text : String) : Option Scalar :=
  if reservedWords.contains text then none
  else if nullWords.contains text then some .null
  else if trueWords.contains text then some (.boolean true)
  else if falseWords.contains text then some (.boolean false)
  else
    let (negative, unsigned) := Float64.splitSign text.toList
    match whole? unsigned, pointed? text.toList with
    | some n, _ => some (.integer (if negative then -(n : Int) else n))
    | none, some x => some (.float x)
    | none, none => some (.text text)

end ActivityMatrix.Yaml
