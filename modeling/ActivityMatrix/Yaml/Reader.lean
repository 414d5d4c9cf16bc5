import ActivityMatrix.Yaml.Scalar

/-!
# Reading YAML

The document that a YAML text holds, or nothing when the text is refused. Collections are written in
blocks, one entry a line and set in by the column of the entries, or in brackets; scalars stand
without quotes, in single or in double quotes, and may run over several lines; a comment begins with
a number sign after a blank. A key is a scalar, fits on one line and is not too long. Anchors, tags,
block scalars and several documents in one text are refused.
-/

namespace ActivityMatrix.Yaml

/-! ## Characters -/

/-- Whether a character ends a line. -/
def isBreak (c : Char) : Bool :=
  c == '\n' || c == '\r' || c == '\u0085' || c == '\u2028' || c == '\u2029'

/-- Whether a character may occur in a text at all. -/
def isAllowed (c : Char) : Bool :=
  c == '\t' || isBreak c || (' ' ≤ c && c ≤ '~') || ('\u00a0' ≤ c && c ≤ '\ufffd')
    || '\uffff' < c

/-- Whether a text is at its end, at a blank, or at the end of a line. -/
def atBlank : List Char → Bool
  | [] => true
  | c :: _ => c == ' ' || c == '\t' || isBreak c

def atDash : List Char → Bool
  | '-' :: rest => atBlank rest
  | _ => false

def atColon : List Char → Bool
  | ':' :: rest => atBlank rest
  | _ => false

/-- Whether a line starts with a mark between documents. -/
def atDocumentMark : List Char → Bool
  | '-' :: '-' :: '-' :: rest => atBlank rest
  | '.' :: '.' :: '.' :: rest => atBlank rest
  | _ => false

/-- Whether nothing but blanks and a comment is left of a line. -/
def atLineEnd (cs : List Char) : Bool :=
  match cs.dropWhile (· == ' ') with
  | [] => true
  | c :: _ => isBreak c || c == '#'

/-- The next content after blanks, comments and line ends, with its column. -/
def skip (inComment : Bool) (column : Nat) : List Char → Nat × List Char
  | [] => (column, [])
  | c :: rest =>
      if isBreak c then skip false 0 rest
      else if inComment || c == '#' then skip true (column + 1) rest
      else if c == ' ' then skip false (column + 1) rest
      else (column, c :: rest)

/-- The next content with its column. -/
def nextContent (cs : List Char) : Nat × List Char :=
  skip false 0 cs

/-! ## Scalars that run over lines -/

/-- What a character that ends a line is read as. -/
def breakValue (c : Char) : Char :=
  if c == '\u2028' || c == '\u2029' then c else '\n'

/-- Whether a character is a blank within a quoted scalar. -/
def isBlank (c : Char) : Bool := c == ' ' || c == '\t'

/-- The line ends before the next content of a scalar, the column of that content, and what starts
with it. The column is the number of blanks since the last line end. -/
def moreBreaks (blank : Char → Bool) (column : Nat) : List Char → List Char × Nat × List Char
  | [] => ([], column, [])
  | c :: rest =>
      if isBreak c then
        let (breaks, after) := moreBreaks blank 0 rest
        (breakValue c :: breaks, after)
      else if blank c then moreBreaks blank (column + 1) rest
      else ([], column, c :: rest)

/-- What line ends inside a scalar are read as: a single one as a blank, several ones as all but the
first. -/
def fold (first : Char) (more : List Char) : List Char :=
  if breakValue first != '\n' then breakValue first :: more
  else if more.isEmpty then [' '] else more

/-- A scalar that was read: its characters in reverse, whether it runs over lines, and the rest. -/
structure ScannedText where
  reversed : List Char
  /-- Whether the scalar runs over several lines. -/
  crossed : Bool
  rest : List Char

/-- The text of a scalar that was read. -/
def ScannedText.text (s : ScannedText) : String :=
  String.ofList s.reversed.reverse

/-! ## Plain scalars -/

/-- The characters that no plain scalar starts with. -/
def indicators : List Char :=
  ['-', '?', ':', ',', '[', ']', '\x7b', '\x7d', '#', '&', '*', '!', '|', '>', '\'', '"', '%', '@',
   '\x60']

def flowIndicators : List Char := [',', '[', ']', '\x7b', '\x7d']

/-- Whether a plain scalar starts here. -/
def startsPlain (inFlow : Bool) : List Char → Bool
  | [] => false
  | c :: rest =>
      if c == ' ' || c == '\t' || isBreak c then false
      else if indicators.contains c then
        !atBlank rest && (c == '-' || (!inFlow && (c == '?' || c == ':')))
      else true

/-- Whether a plain scalar ends in front of a character with the given rest behind it. -/
def endsPlain (inFlow : Bool) (c : Char) (rest : List Char) : Bool :=
  c == ' ' || c == '\t' || isBreak c
    || (c == ':' && (atBlank rest || (inFlow && rest.head?.any flowIndicators.contains)))
    || (inFlow && (c == '?' || flowIndicators.contains c))

/-- The characters of a plain scalar up to the next blank or end, put in front of `done` in
reverse. -/
def plainPiece (inFlow : Bool) (done : List Char) : List Char → List Char × List Char
  | [] => (done, [])
  | c :: rest =>
      if endsPlain inFlow c rest then (done, c :: rest)
      else plainPiece inFlow (c :: done) rest

/-- Reads on in a plain scalar. A line that continues it in a block starts at the column `bound` or
further right. -/
def plainFrom (inFlow : Bool) (bound : Nat) (crossed : Bool) (done : List Char) :
    Nat → List Char → ScannedText
  | 0, cs => ⟨done, crossed, cs⟩
  | fuel + 1, cs =>
      let (piece, after) := plainPiece inFlow done cs
      let content := after.dropWhile (· == ' ')
      match content with
      | [] => ⟨piece, crossed, after⟩
      | c :: rest =>
          if isBreak c then
            let (more, column, next) := moreBreaks (· == ' ') 0 rest
            -- a comment, a mark between documents, and content further left end the scalar
            let goesOn := !(column == 0 && atDocumentMark next) && next.head? != some '#'
              && (inFlow || bound ≤ column)
              && next.head?.any fun d => !endsPlain inFlow d next.tail
            if goesOn then
              plainFrom inFlow bound true ((fold c more).reverse ++ piece) fuel next
            else ⟨piece, crossed, after⟩
          -- blanks belong to the scalar only if it goes on behind them
          else if after.length == content.length || c == '#' || endsPlain inFlow c rest then
            ⟨piece, crossed, after⟩
          else
            plainFrom inFlow bound crossed (after.takeWhile (· == ' ') ++ piece) fuel content

/-- The plain scalar at the start of a text. -/
def plain (inFlow : Bool) (bound : Nat) (cs : List Char) : ScannedText :=
  plainFrom inFlow bound false [] cs.length cs

/-! ## Quoted scalars -/

/-- The characters that a letter after a backslash stands for. -/
def escapes : List (Char × Char) :=
  [('0', '\x00'), ('a', '\x07'), ('b', '\x08'), ('t', '\t'), ('\t', '\t'), ('n', '\n'),
   ('v', '\x0b'), ('f', '\x0c'), ('r', '\r'), ('e', '\x1b'), (' ', ' '), ('"', '"'), ('\\', '\\'),
   ('/', '/'), ('N', '\u0085'), ('_', '\u00a0'), ('L', '\u2028'), ('P', '\u2029')]

/-- How many hexadecimal digits follow a letter after a backslash. -/
def escapeWidths : List (Char × Nat) := [('x', 2), ('u', 4), ('U', 8)]

/-- The characters up to the closing quote, put in front of `done` in reverse. In single quotes a
quote is written twice; in double quotes a backslash introduces a character. -/
def quotedFrom (double : Bool) (crossed : Bool) (done : List Char) :
    Nat → List Char → Option ScannedText
  | 0, _ => none
  | _ + 1, [] => none
  | fuel + 1, c :: rest =>
      if c == '\'' && !double then
        match rest with
        | '\'' :: after => quotedFrom double crossed ('\'' :: done) fuel after
        | _ => some ⟨done, crossed, rest⟩
      else if c == '"' && double then some ⟨done, crossed, rest⟩
      else if c == '\\' && double then
        match rest with
        | [] => none
        | letter :: after =>
            -- a line end behind a backslash leaves no blank
            if isBreak letter then
              let (more, _, next) := moreBreaks isBlank 0 after
              quotedFrom double true (more.reverse ++ done) fuel next
            else match escapes.lookup letter, escapeWidths.lookup letter with
              | some value, _ => quotedFrom double crossed (value :: done) fuel after
              | none, some width =>
                  if after.length < width then none
                  else do
                    let code ← digits? 16 (after.take width)
                    quotedFrom double crossed (Char.ofNat code :: done) fuel (after.drop width)
              | none, none => none
      else if isBlank c || isBreak c then
        let blanks := (c :: rest).takeWhile isBlank
        match (c :: rest).drop blanks.length with
        | [] => none
        | d :: after =>
            -- blanks in front of a line end are no part of the text
            if isBreak d then
              let (more, _, next) := moreBreaks isBlank 0 after
              quotedFrom double true ((fold d more).reverse ++ done) fuel next
            else quotedFrom double crossed (blanks.reverse ++ done) fuel (d :: after)
      else quotedFrom double crossed (c :: done) fuel rest

/-- The quoted scalar after an opening quote. -/
def quoted (double : Bool) (cs : List Char) : Option ScannedText :=
  quotedFrom double false [] (cs.length + 1) cs

/-! ## Collections in brackets -/

/-- A value that was read, whether it runs over several lines, and the rest. -/
structure Parsed where
  value : Document
  crossed : Bool
  rest : List Char

/-- The scalar at the start of a text, in quotes or without. -/
def scalarNode (inFlow : Bool) (bound : Nat) (cs : List Char) : Option Parsed :=
  match cs with
  | '"' :: rest => (quoted true rest).map fun s => ⟨.text s.text, s.crossed, s.rest⟩
  | '\'' :: rest => (quoted false rest).map fun s => ⟨.text s.text, s.crossed, s.rest⟩
  | _ =>
      if startsPlain inFlow cs then
        let s := plain inFlow bound cs
        (resolve? s.text).map fun value => ⟨.scalar value, s.crossed, s.rest⟩
      else none

/-- The scalar that a key is. -/
def keyOf? : Document → Option Scalar
  | .scalar value => some value
  | _ => none

/-- The most characters from the start of a key to the mark of its value. -/
def keyReach : Nat := 1024

/-- The key that was read from the start of a text, when the mark of its value starts what is left
of the text: it is a scalar on one line, and the mark is not too far away. -/
def keyAt? (start : List Char) (key : Parsed) (mark : List Char) : Option Scalar :=
  if key.crossed || mark.length + keyReach < start.length then none else keyOf? key.value

mutual

/-- The value at the start of a text in brackets. The fuel bounds the number of steps. -/
def flowNode : Nat → List Char → Option Parsed
  | 0, _ => none
  | fuel + 1, cs =>
      match cs with
      | '[' :: rest => do
          let (items, after) ← flowItems fuel (nextContent rest).2
          return ⟨.sequence items, false, after⟩
      | '\x7b' :: rest => do
          let (entries, after) ← flowEntries fuel (nextContent rest).2
          return ⟨.ofEntries entries, false, after⟩
      | _ => scalarNode true 0 cs

/-- The value after the mark of a value in brackets: nothing if the entry ends there. -/
def flowValue : Nat → List Char → Option (Document × List Char)
  | 0, _ => none
  | fuel + 1, cs =>
      match (nextContent cs).2 with
      | ',' :: rest => some (.null, ',' :: rest)
      | ']' :: rest => some (.null, ']' :: rest)
      | '\x7d' :: rest => some (.null, '\x7d' :: rest)
      | content => (flowNode fuel content).map fun p => (p.value, p.rest)

/-- The members of a list up to its closing bracket. A member may be a single entry of a mapping. -/
def flowItems : Nat → List Char → Option (List Document × List Char)
  | 0, _ => none
  | fuel + 1, cs =>
      match cs with
      | ']' :: rest => some ([], rest)
      | _ => do
          let first ← flowNode fuel cs
          let (item, after) ← match first.rest.dropWhile (· == ' ') with
            | ':' :: rest => do
                let key ← keyAt? cs first (':' :: rest)
                let (value, after) ← flowValue fuel rest
                some (Document.ofEntries [(key, value)], after)
            | content => some (first.value, content)
          match (nextContent after).2 with
          | ',' :: rest =>
              let (items, after) ← flowItems fuel (nextContent rest).2
              return (item :: items, after)
          | ']' :: rest => return ([item], rest)
          | _ => none

/-- The entries of a mapping up to its closing brace. -/
def flowEntries : Nat → List Char → Option (List (Scalar × Document) × List Char)
  | 0, _ => none
  | fuel + 1, cs =>
      match cs with
      | '\x7d' :: rest => some ([], rest)
      | _ => do
          let first ← flowNode fuel cs
          let (key, value, after) ← match first.rest.dropWhile (· == ' ') with
            | ':' :: rest => do
                let key ← keyAt? cs first (':' :: rest)
                let (value, after) ← flowValue fuel rest
                some (key, value, after)
            | content => (keyOf? first.value).map fun key => (key, Document.null, content)
          match (nextContent after).2 with
          | ',' :: rest =>
              let (entries, after) ← flowEntries fuel (nextContent rest).2
              return ((key, value) :: entries, after)
          | '\x7d' :: rest => return ([(key, value)], rest)
          | _ => none

end

/-! ## Collections in blocks -/

/-- The value at the start of a text outside of brackets, up to its end. -/
def inlineNode (bound : Nat) (cs : List Char) : Option Parsed :=
  match cs with
  | '[' :: _ | '\x7b' :: _ => flowNode (4 * cs.length + 4) cs
  | _ => scalarNode false bound cs

/-- The key that was read from the start of a text, and the rest after the mark of its value. -/
def afterKey? (start : List Char) (key : Parsed) : Option (Scalar × List Char) := do
  let rest := key.rest.dropWhile (· == ' ')
  if atColon rest then return (← keyAt? start key rest, rest.drop 1) else none

mutual

/-- The value at a column, in a block whose content starts at the column `bound` or right of it. -/
def blockNode : Nat → Nat → Nat → List Char → Option (Document × List Char)
  | 0, _, _, _ => none
  | fuel + 1, bound, column, cs =>
      if atDash cs then blockSequence fuel column cs
      else do
        let first ← inlineNode bound cs
        -- what was read turns out to be the first key of a mapping
        if atColon (first.rest.dropWhile (· == ' ')) then
          let (key, afterKey) ← afterKey? cs first
          let (value, afterValue) ← blockValue fuel column afterKey
          let (entries, after) ← blockEntries fuel column afterValue
          return (.ofEntries ((key, value) :: entries), after)
        else if atLineEnd first.rest then return (first.value, first.rest)
        else none

/-- The value after a key whose column is given: on the same line, or further right on the lines
below, or a list at the same column. -/
def blockValue : Nat → Nat → List Char → Option (Document × List Char)
  | 0, _, _ => none
  | fuel + 1, column, cs =>
      if atLineEnd cs then
        let (next, content) := nextContent cs
        if content.isEmpty then some (.null, [])
        else if column < next then blockNode fuel (column + 1) next content
        -- the marks of a list need not stand further right than its key
        else if column == next && atDash content then blockSequence fuel column content
        else some (.null, cs)
      else do
        let value ← inlineNode (column + 1) (cs.dropWhile (· == ' '))
        if atLineEnd value.rest then return (value.value, value.rest) else none

/-- The entries of a mapping whose keys stand at a column. -/
def blockEntries : Nat → Nat → List Char → Option (List (Scalar × Document) × List Char)
  | 0, _, _ => none
  | fuel + 1, column, cs =>
      let (next, content) := nextContent cs
      -- content further left belongs to a block around this one
      if content.isEmpty || next < column || (next == 0 && atDocumentMark content) then
        some ([], cs)
      else if column < next then none
      else do
        let (key, afterKey) ← afterKey? content (← inlineNode (column + 1) content)
        let (value, afterValue) ← blockValue fuel column afterKey
        let (entries, after) ← blockEntries fuel column afterValue
        return ((key, value) :: entries, after)

/-- The list whose first mark is the start of the text and stands at a column. -/
def blockSequence : Nat → Nat → List Char → Option (Document × List Char)
  | 0, _, _ => none
  | fuel + 1, column, cs => do
      let (item, afterItem) ← blockItem fuel column (cs.drop 1)
      let (items, after) ← blockItems fuel column afterItem
      return (.sequence (item :: items), after)

/-- The further members of a list whose marks stand at a column. -/
def blockItems : Nat → Nat → List Char → Option (List Document × List Char)
  | 0, _, _ => none
  | fuel + 1, column, cs =>
      let (next, content) := nextContent cs
      if content.isEmpty || next < column then some ([], cs)
      else if column < next then none
      else if !atDash content then some ([], cs)
      else do
        let (item, afterItem) ← blockItem fuel column (content.drop 1)
        let (items, after) ← blockItems fuel column afterItem
        return (item :: items, after)

/-- The member of a list after its mark. -/
def blockItem : Nat → Nat → List Char → Option (Document × List Char)
  | 0, _, _ => none
  | fuel + 1, column, cs =>
      if atLineEnd cs then
        let (next, content) := nextContent cs
        if content.isEmpty || next ≤ column then some (.null, cs)
        else blockNode fuel (column + 1) next content
      else
        let content := cs.dropWhile (· == ' ')
        blockNode fuel (column + 1) (column + 1 + (cs.length - content.length)) content

end

/-! ## Texts -/

/-- A text without a byte order mark at its start. -/
def withoutOrderMark (cs : List Char) : List Char :=
  if cs.head? == some '\ufeff' then cs.tail else cs

/-- The value of a document whose content stands at a column. On the line of the mark that opens the
document there is no block. -/
def documentValue (onMarkLine : Bool) (column : Nat) (content : List Char) :
    Option (Document × List Char) :=
  if content.isEmpty || (column == 0 && atDocumentMark content) then some (.null, content)
  else if onMarkLine then do
    let value ← inlineNode 0 content
    if atLineEnd value.rest then return (value.value, value.rest) else none
  else blockNode (8 * content.length + 8) 0 column content

/-- The value of the document that a text opens, which may start with a mark. The fuel is several
steps for every character, and no step leaves the characters as they are more than a few times in a
row. -/
def openDocument (cs : List Char) : Option (Document × List Char) :=
  let (column, content) := nextContent cs
  match content with
  | '-' :: '-' :: '-' :: rest =>
      if column == 0 && atBlank rest then
        let (column, content) := skip false 3 rest
        documentValue (!atLineEnd rest) column content
      else documentValue false column content
  | _ => documentValue false column content

def read? (text : String) : Option Document := do
  if !text.toList.all isAllowed then none
  let (document, after) ← openDocument (withoutOrderMark text.toList)
  let (column, rest) := nextContent after
  if rest.isEmpty || (column == 0 && rest.take 3 == ['.', '.', '.']) then some document
  else none

end ActivityMatrix.Yaml
