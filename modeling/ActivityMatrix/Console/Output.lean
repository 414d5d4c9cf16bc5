import ActivityMatrix.Console.Markup
import ActivityMatrix.Console.Sheet

/-!
# Console output

What a command prints: paragraphs of text, which are broken into lines that fit on the console or
left as they are, and tables. Control characters that would move the cursor are left out.
-/

namespace ActivityMatrix.Console

/-- Something that was printed. -/
inductive Printed where
  | text (content : String)
  | sheet (content : Sheet)
  deriving DecidableEq, Repr, Inhabited

/-- The control characters that are left out. -/
def isDropped (c : Char) : Bool :=
  c == '\x07' || c == '\x08' || c == '\x0b' || c == '\x0c' || c == '\r'

/-- Characters without the control characters that are left out. -/
def withoutControls (cs : List Char) : List Char :=
  cs.filter (!isDropped ·)

def joinLines (lines : List (List Char)) : String :=
  "\n".intercalate (lines.map String.ofList)

/-- A text as it is shown when its lines are not broken. -/
def shown (text : String) : String :=
  joinLines ((Text.splitOnChar '\n' (withoutControls (withEmoji text.toList))).map expandTabs)

def markupText (markup : String) : Except MarkupError (List Char) :=
  (plainText markup).map withoutControls

/-- A marked-up text as it is shown, in lines that fit on the console. -/
def shownMarkup (markup : String) : Except MarkupError String :=
  (markupText markup).map fun cs => joinLines (wrap consoleWidth .folded cs)

def shownCell (markup : String) : Except MarkupError String :=
  (markupText markup).map String.ofList

/-- A table with marked-up cells as it is shown. -/
def shownSheet (sheet : Sheet) : Except MarkupError Sheet := do
  return {
    title := ← shownCell sheet.title
    heads := ← sheet.heads.mapM shownCell
    rows := ← sheet.rows.mapM (·.mapM shownCell) }

def Printed.asText : Printed → String
  | text content => content
  | sheet content => content.text

/-! ## Lines -/

/-- A line of a printed table or text. -/
inductive PrintedLine where
  | text (content : String)
  | row (cells : List String)
  deriving DecidableEq, Repr, Inhabited

/-- The lines of something printed, without frames, and without the blanks at their ends. -/
def Printed.lines : Printed → List PrintedLine
  | .text content => (Text.splitOn '\n' content).map fun line => .text (Text.strip line)
  | .sheet content =>
      content.titleLines.map (fun line => .text (Text.strip line))
        ++ content.lines.map fun cells => .row (cells.map Text.strip)

/-- The lines of all that was printed, without the empty ones between paragraphs. -/
def printedLines (printed : List Printed) : List PrintedLine :=
  (printed.flatMap Printed.lines).filter (· != .text "")

end ActivityMatrix.Console
