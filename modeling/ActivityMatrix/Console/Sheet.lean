import ActivityMatrix.Console.Wrapping

/-!
# Tables

How a table is laid out. A column is as wide as its widest line, and cells that need more room, as
those with tabs do, run over several lines. If the columns do not fit on the console, the widest
ones are made smaller first, until they are as small as the next ones.
-/

namespace ActivityMatrix.Console

/-- How many columns the console has. -/
def consoleWidth : Nat := 4000

/-- A table: a title, the heads of its columns, and its rows. -/
structure Sheet where
  title : String
  heads : List String
  rows : List (List String)
  deriving DecidableEq, Repr, Inhabited

/-! ## The width of a cell -/

/-- Whether a character ends a line when the width of a cell is measured. -/
def endsMeasuredLine (c : Char) : Bool :=
  c == '\n' || c == '\r' || c == '\x0b' || c == '\x0c' || c == '\x1c' || c == '\x1d' || c == '\x1e'
    || c == '\u0085' || c == '\u2028' || c == '\u2029'

/-- How many columns the widest line of a text takes. -/
def widestLine (cs : List Char) : Nat :=
  ((Text.splitOnChar '\n' (cs.map fun c => if endsMeasuredLine c then '\n' else c)).map
    columns).foldl max 0

/-! ## Making columns smaller -/

def totalWidth (widths : List Nat) : Nat :=
  widths.foldl (· + ·) 0

/-- A quotient rounded to the nearest number, a half to the even one. -/
def roundedQuotient (n d : Nat) : Nat :=
  let half := 2 * (n % d)
  if half < d || (half = d && n / d % 2 = 0) then n / d else n / d + 1

/-- Takes `excess` from the widths that are marked, evenly and at most `limit` from each; `sharers`
of them are marked. -/
def shareExcess (excess sharers limit : Nat) : List (Nat × Bool) → List Nat
  | [] => []
  | (width, true) :: rest =>
      let share := min limit (roundedQuotient excess sharers)
      (width - share) :: shareExcess (excess - share) (sharers - 1) limit rest
  | (width, false) :: rest => width :: shareExcess excess sharers limit rest

/-- Widths of which the largest are made smaller, until they fit into a room or are all the same.
The fuel is the number of widths: in each step but the last one more becomes as small as the next
ones. -/
def levelWidths (room : Nat) : Nat → List Nat → List Nat
  | 0, widths => widths
  | fuel + 1, widths =>
      let excess := totalWidth widths - room
      let largest := widths.foldl max 0
      let second := (widths.filter (· != largest)).foldl max 0
      if excess = 0 || largest = second then widths
      else
        let marked := widths.map fun width => (width, width == largest)
        let sharers := (widths.filter (· == largest)).length
        levelWidths room fuel
          (shareExcess excess sharers (min excess (largest - second)) marked)

/-! ## Layout -/

/-- How many columns stand beside the text of a cell. -/
def cellPadding : Nat := 2

namespace Sheet

/-- The cells of a column, its head first. -/
def column (sheet : Sheet) (n : Nat) : List (List Char) :=
  (sheet.heads :: sheet.rows).map fun cells => (cells.getD n "").toList

/-- The widths of the columns, which have lines between and beside them. -/
def widths (sheet : Sheet) : List Nat :=
  let count := sheet.heads.length
  let room := consoleWidth - (count + 1)
  let wanted := (List.range count).map fun n =>
    min room ((sheet.column n).map widestLine |>.foldl max 0 |> (· + cellPadding))
  (levelWidths room (2 * count) wanted).map (· - cellPadding)

/-- The lines of a row: cells that have fewer lines than others end in empty lines. -/
def rowLines (widths : List Nat) (cells : List String) : List (List String) :=
  let columns := (widths.zip cells).map fun (width, cell) =>
    (wrap width .shortened cell.toList).map String.ofList
  let height := (columns.map List.length).foldl max 0
  (List.range height).map fun n => columns.map (·.getD n "")

/-- The lines of the head and of the rows, cell by cell. -/
def lines (sheet : Sheet) : List (List String) :=
  (sheet.heads :: sheet.rows).flatMap (rowLines sheet.widths)

def titleLines (sheet : Sheet) : List String :=
  let width := totalWidth (sheet.widths.map (· + cellPadding)) + sheet.heads.length + 1
  (wrap width .folded sheet.title.toList).map String.ofList

/-- The table as text, its columns in line. -/
def text (sheet : Sheet) : String :=
  let line (cells : List String) : String :=
    "  ".intercalate ((cells.zip sheet.widths).map fun (cell, width) =>
      cell ++ "".pushn ' ' (width - columns cell.toList))
  "\n".intercalate (sheet.titleLines ++ sheet.lines.map line)

end Sheet

end ActivityMatrix.Console
