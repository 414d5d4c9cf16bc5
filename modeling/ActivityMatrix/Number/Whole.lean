import ActivityMatrix.Number.Reading
import ActivityMatrix.Text.DecimalDigit

/-!
# Reading whole numbers

The whole number that a text stands for: decimal digits of any script, with or without a sign.
Blanks at the ends do not count, and single underscores may stand between digits.
-/

namespace ActivityMatrix

/-- How many digits a whole number may have. -/
def wholeDigitLimit : Nat := 4300

/-- The whole number that characters stand for. -/
def wholeNumber? (cs : List Char) : Option Int := do
  let (isNegative, rest) := Float64.splitSign (Text.trimBlanks cs)
  let digits ← Float64.withoutUnderscores? rest
  if digits.isEmpty || wholeDigitLimit < digits.length || !digits.all Text.isDecimalDigit then none
  else
    let size : Int := Text.decimalNumber digits
    some (if isNegative then -size else size)

end ActivityMatrix
