import ActivityMatrix.Console.Columns

/-!
# Lines

How a text is laid out in lines of a given width. A tab stands for the blanks up to the next
multiple of eight columns. A line is broken between two words, each of which keeps the blanks behind
it; a word that is wider than a line is either cut into pieces or made shorter, with an ellipsis for
what is left out.
-/

namespace ActivityMatrix.Console

/-! ## Tabs -/

def tabWidth : Nat := 8

/-- A part of a line that ends in a tab, which is in the column `column` at its start, with blanks
for the tab, and the column at its end. -/
def shownTab (column : Nat) (part : List Char) : List Char × Nat :=
  let start := part ++ [' ']
  let reached := column + columns start
  let missing := (tabWidth - reached % tabWidth) % tabWidth
  (start ++ List.replicate missing ' ', reached + missing)

/-- The parts of a line between its tabs, from a column on, with blanks for the tabs. -/
def shownTabs (column : Nat) : List (List Char) → List Char
  | [] => []
  | [last] => last
  | part :: rest =>
      let (start, reached) := shownTab column part
      start ++ shownTabs reached rest

/-- A line with blanks for its tabs. -/
def expandTabs (line : List Char) : List Char :=
  shownTabs 0 (Text.splitOnChar '\t' line)

/-! ## Words -/

/-- Characters behind the characters `word` of a word, in reverse, cut in front of each word. A word
has blanks behind it, and the first one may have blanks in front of it. -/
def wordsFrom (word : List Char) (isComplete : Bool) : List Char → List (List Char)
  | [] => if word.isEmpty then [] else [word.reverse]
  | c :: rest =>
      if Text.isBlank c then
        wordsFrom (c :: word) (isComplete || word.any (!Text.isBlank ·)) rest
      else if isComplete then word.reverse :: wordsFrom [c] false rest
      else wordsFrom (c :: word) false rest

/-- The words of a line with the blanks around them. -/
def wordsWithBlanks (line : List Char) : List (List Char) :=
  wordsFrom [] false line

/-- How many columns a word takes without the blanks behind it. -/
def wordColumns (word : List Char) : Nat :=
  columns (word.reverse.dropWhile Text.isBlank).reverse

/-! ## Folding -/

/-- Glyphs cut into pieces of a width, the glyphs `piece`, in reverse, being the first ones of the
next piece. -/
def foldGlyphs (width : Nat) (piece : List Glyph) (used : Nat) : List Glyph → List (List Char)
  | [] => if used = 0 then [] else [Glyph.chars piece.reverse]
  | glyph :: rest =>
      if width < used + glyph.width then
        Glyph.chars piece.reverse :: foldGlyphs width [glyph] glyph.width rest
      else foldGlyphs width (glyph :: piece) (used + glyph.width) rest

/-- Characters cut into pieces of a width. -/
def fold (width : Nat) (cs : List Char) : List (List Char) :=
  foldGlyphs width [] 0 (glyphs cs)

/-- What becomes of a word that is wider than a line. -/
inductive Overflow where
  | folded
  | shortened
  deriving DecidableEq, Repr, Inhabited

/-- Words in lines, behind a line of which `line` has been written, whose words take `used`
columns. -/
def fillLines (width : Nat) (overflow : Overflow) (line : List Char) (used : Nat) :
    List (List Char) → List (List Char)
  | [] => [line]
  | word :: rest =>
      let needed := wordColumns word
      if used + needed ≤ width then
        fillLines width overflow (line ++ word) (used + columns word) rest
      else
        let before := if line.isEmpty then [] else [line]
        if width < needed && overflow = .folded then
          -- the last piece of a folded word is filled up with the next words
          let pieces := fold width word
          let last := pieces.getLast?.getD []
          before ++ pieces.dropLast ++ fillLines width overflow last (columns last) rest
        else before ++ fillLines width overflow word (columns word) rest

/-- A line made shorter if it is wider than a width. -/
def shorten (width : Nat) (line : List Char) : List Char :=
  if columns line ≤ width then line else cut (width - 1) line ++ ['…']

/-- The blanks at the end of a line left out as far as its characters are more than a width. -/
def dropExcess (width : Nat) (line : List Char) : List Char :=
  let blanks := (line.reverse.takeWhile Text.isBlank).length
  line.take (line.length - min blanks (line.length - width))

/-- The lines of a text without line ends. -/
def wrapLine (width : Nat) (overflow : Overflow) (line : List Char) : List (List Char) :=
  let lines := (fillLines width overflow [] 0 (wordsWithBlanks (expandTabs line))).map
    (dropExcess width)
  match overflow with
  | .folded => lines.map (cut width)
  | .shortened => lines.map (shorten width)

/-- The lines of a text. -/
def wrap (width : Nat) (overflow : Overflow) (cs : List Char) : List (List Char) :=
  (Text.splitOnChar '\n' cs).flatMap (wrapLine width overflow)

end ActivityMatrix.Console
