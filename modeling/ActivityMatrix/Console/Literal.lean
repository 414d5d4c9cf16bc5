import ActivityMatrix.Text.Blank

/-!
# Literals

The values that may be written behind the name of an action: numbers, texts between quotes, truth
values, and tuples, sets and mappings of such values. Only the grammar matters here. A number may
have a sign and, after it, an imaginary part; members of sets and keys of mappings must not be sets
or mappings themselves, nor contain any.
-/

namespace ActivityMatrix.Console

/-- What a literal is, as far as its place matters. -/
inductive LiteralKind where
  | real
  | imaginary
  /-- A number without an imaginary part, with a sign. -/
  | signed
  /-- Any other value that may be a member of a set. -/
  | fixed
  /-- A value that may not be a member of a set. -/
  | changing
  deriving DecidableEq, Repr, Inhabited

namespace LiteralKind

/-- The kind of a tuple of values. -/
def tuple (kinds : List LiteralKind) : LiteralKind :=
  if kinds.contains changing then changing else fixed

/-- The kind of a number after a sign; other values have none. -/
def withSign? : LiteralKind → Option LiteralKind
  | real => some signed
  | imaginary => some fixed
  | _ => none

/-- Whether a value may have an imaginary part added. -/
def isReal (kind : LiteralKind) : Bool :=
  kind == real || kind == signed

end LiteralKind

/-- A literal that was read, and the rest. -/
abbrev ReadLiteral := Option (LiteralKind × List Char)

/-! ## Numbers -/

/-- Whether a character is a digit in a base of at most sixteen. -/
def isDigitIn (base : Nat) (c : Char) : Bool :=
  let value :=
    if c.isDigit then c.toNat - '0'.toNat
    else if 'a' ≤ c && c ≤ 'f' then c.toNat - 'a'.toNat + 10
    else if 'A' ≤ c && c ≤ 'F' then c.toNat - 'A'.toNat + 10
    else 16
  value < base

/-- Digits at the start of a text and the rest. An underscore may stand between two digits. -/
def digitRun (base : Nat) : List Char → List Char × List Char
  | '_' :: c :: rest =>
      if isDigitIn base c then
        let (digits, after) := digitRun base rest
        (c :: digits, after)
      else ([], '_' :: c :: rest)
  | c :: rest =>
      if isDigitIn base c then
        let (digits, after) := digitRun base rest
        (c :: digits, after)
      else ([], c :: rest)
  | [] => ([], [])

/-- The rest after an exponent, if there is one. -/
def afterExponent? : List Char → Option (List Char)
  | c :: rest =>
      if c == 'e' || c == 'E' then
        let unsigned := match rest with
          | '+' :: after | '-' :: after => after
          | _ => rest
        if unsigned.head?.any Char.isDigit then some (digitRun 10 unsigned).2 else none
      else none
  | [] => none

/-- The bases that a letter after a zero stands for. -/
def basesByLetter : List (Char × Nat) :=
  [('x', 16), ('X', 16), ('o', 8), ('O', 8), ('b', 2), ('B', 2)]

/-- The number in base ten at the start of a text that starts with a digit or a point. -/
def decimalLiteral (cs : List Char) : ReadLiteral :=
  let (whole, afterWhole) := digitRun 10 cs
  let (fraction, afterFraction) := match afterWhole with
    | '.' :: rest =>
        if rest.head? == some '_' then ([], rest) else digitRun 10 rest
    | _ => ([], afterWhole)
  let hasPoint := afterWhole.head? == some '.'
  let afterPower := afterExponent? afterFraction
  let rest := afterPower.getD afterFraction
  if whole.isEmpty && fraction.isEmpty then none
  else match rest with
    | 'j' :: rest | 'J' :: rest => some (.imaginary, rest)
    | _ =>
        let isWhole := !hasPoint && afterPower.isNone
        -- a whole number other than zero starts with no zero
        if isWhole && whole.head? == some '0' && whole.any (· != '0') then none
        else some (.real, rest)

/-- The number at the start of a text that starts with a digit or a point. -/
def numberLiteral (cs : List Char) : ReadLiteral :=
  match cs with
  | '0' :: letter :: rest =>
      match basesByLetter.lookup letter with
      | some base =>
          let (digits, after) := digitRun base rest
          if digits.isEmpty then none else some (.real, after)
      | none => decimalLiteral cs
  | _ => decimalLiteral cs

/-! ## Texts -/

/-- How a text between quotes is written. -/
structure QuoteStyle where
  raw : Bool
  bytes : Bool
  quote : Char
  triple : Bool
  deriving DecidableEq, Repr, Inhabited

/-- The rest after a number of hexadecimal digits. -/
def afterHexDigits? (count : Nat) (cs : List Char) : Option (List Char) :=
  if (cs.take count).length == count && (cs.take count).all (isDigitIn 16) then
    some (cs.drop count)
  else none

/-- The rest after a letter that follows a backslash and what belongs to it. -/
def afterEscape? (bytes : Bool) (letter : Char) (cs : List Char) : Option (List Char) :=
  if letter == 'x' then afterHexDigits? 2 cs
  else if bytes then some cs
  else if letter == 'u' then afterHexDigits? 4 cs
  else if letter == 'U' then
    -- no code point needs more than six digits, the first two of which are at most a ten
    if cs.take 3 == ['0', '0', '0'] || cs.take 4 == ['0', '0', '1', '0'] then afterHexDigits? 8 cs
    else none
  else if letter == 'N' then
    match cs with
    | '\x7b' :: rest =>
        match rest.dropWhile (· != '\x7d') with
        | _ :: after => if rest.head? == some '\x7d' then none else some after
        | [] => none
    | _ => none
  else some cs

/-- The rest after the end of a text, which is not closed before. The fuel is the number of
characters. -/
def afterText? (style : QuoteStyle) : Nat → List Char → Option (List Char)
  | 0, _ => none
  | _ + 1, [] => none
  | fuel + 1, c :: rest =>
      if style.bytes && 0x80 ≤ c.toNat then none
      else if c == '\\' then
        match rest with
        | [] => none
        | letter :: after =>
            if style.bytes && 0x80 ≤ letter.toNat then none
            -- even so the character behind the backslash does not end the text
            else if style.raw then afterText? style fuel after
            else (afterEscape? style.bytes letter after).bind (afterText? style fuel)
      else if c == style.quote then
        if !style.triple then some rest
        else if rest.take 2 == [c, c] then some (rest.drop 2)
        else afterText? style fuel rest
      else if c == '\n' && !style.triple then none
      else afterText? style fuel rest

/-- The letters that may stand in front of a quote: whether backslashes stand for themselves, and
whether the text consists of bytes. -/
def quotePrefixes : List (List Char × Bool × Bool) :=
  [([], false, false), (['r'], true, false), (['u'], false, false), (['b'], false, true),
   (['b', 'r'], true, true), (['r', 'b'], true, true)]

/-- How the text at the start of a text is written, and what follows its opening quotes; nothing if
no text starts here. -/
def openedText? (cs : List Char) : Option (QuoteStyle × List Char) :=
  let letters := cs.takeWhile Char.isAlpha
  match quotePrefixes.lookup (letters.map Char.toLower), cs.drop letters.length with
  | some (raw, bytes), quote :: rest =>
      if quote != '"' && quote != '\'' then none
      else if rest.take 2 == [quote, quote] then some (⟨raw, bytes, quote, true⟩, rest.drop 2)
      else some (⟨raw, bytes, quote, false⟩, rest)
  | _, _ => none

/-! ## Values -/

/-- The characters that may stand between the parts of a literal. Inside of parentheses and braces
these are also line ends and comments. -/
def skipGaps (inside inComment : Bool) : List Char → List Char
  | [] => []
  | c :: rest =>
      if c == '\n' || c == '\r' then if inside then skipGaps inside false rest else c :: rest
      else if inComment then skipGaps inside true rest
      else if c == ' ' || c == '\t' || c == '\x0c' then skipGaps inside false rest
      else if c == '\\' then
        match rest with
        | '\n' :: after => skipGaps inside false after
        | _ => c :: rest
      else if c == '#' then skipGaps inside true rest
      else c :: rest

/-- The rest after the texts that follow a text and belong to it: they are all of bytes, or none of
them is. The fuel is the number of characters. -/
def afterTexts? (bytes inside : Bool) : Nat → List Char → Option (List Char)
  | 0, cs => some cs
  | fuel + 1, cs =>
      match openedText? (skipGaps inside false cs) with
      | none => some cs
      | some (style, rest) =>
          if style.bytes != bytes then none
          else (afterText? style rest.length.succ rest).bind (afterTexts? bytes inside fuel)

/-- Whether a character may stand in a name. -/
def isNameChar (c : Char) : Bool :=
  c.isAlphanum || c == '_' || 0x80 ≤ c.toNat

/-- The words that are values. -/
def valueWords : List String := ["True", "False", "None"]

/-- The most parentheses and braces that may be open at a time. -/
def depthLimit : Nat := 200

/-- The value at the start of a text that is written without parentheses and braces. -/
def simpleLiteral (inside : Bool) (cs : List Char) : ReadLiteral :=
  match openedText? cs with
  | some (style, rest) => do
      let after ← afterText? style rest.length.succ rest
      return (.fixed, ← afterTexts? style.bytes inside after.length after)
  | none =>
      let name := String.ofList (cs.takeWhile isNameChar)
      let afterName := skipGaps inside false (cs.drop name.length)
      match cs with
      | '.' :: '.' :: '.' :: rest => some (.fixed, rest)
      | c :: _ =>
          if c.isDigit || c == '.' then numberLiteral cs
          else if valueWords.contains name then some (.fixed, cs.drop name.length)
          -- the one call that is a value: braces cannot write a set without members
          else if name == "set" then
            match afterName with
            | '(' :: rest =>
                match skipGaps true false rest with
                | ')' :: after => some (.changing, after)
                | _ => none
            | _ => none
          else none
      | [] => none

mutual

/-- The value at the start of a text, without a sign. The fuel bounds the number of steps, and
`depth` says how many parentheses and braces are open. -/
def atomLiteral : Nat → Nat → List Char → ReadLiteral
  | 0, _, _ => none
  | fuel + 1, depth, cs =>
      match cs with
      | '(' :: rest =>
          if depthLimit ≤ depth then none
          else match skipGaps true false rest with
            | ')' :: after => some (.fixed, after)
            | inner => do
                let (first, after) ← literalFrom fuel (depth + 1) inner
                match skipGaps true false after with
                | ')' :: rest => some (first, rest)
                | ',' :: rest => do
                    let (kinds, rest) ← literalMembers fuel (depth + 1) ')' rest
                    some (.tuple (first :: kinds), rest)
                | _ => none
      | '\x7b' :: rest =>
          if depthLimit ≤ depth then none
          else match skipGaps true false rest with
            | '\x7d' :: after => some (.changing, after)
            | inner => do
                let (first, after) ← literalFrom fuel (depth + 1) inner
                if first == .changing then none
                match skipGaps true false after with
                | '\x7d' :: rest => some (.changing, rest)
                | ',' :: rest => do
                    let (kinds, rest) ← literalMembers fuel (depth + 1) '\x7d' rest
                    if kinds.contains .changing then none else some (.changing, rest)
                | ':' :: rest => do
                    let (_, after) ← literalFrom fuel (depth + 1) rest
                    some (.changing, ← literalEntries fuel (depth + 1) after)
                | _ => none
      | _ => simpleLiteral (0 < depth) cs

/-- The value at the start of a text, after gaps, possibly with a sign and an imaginary part. -/
def literalFrom : Nat → Nat → List Char → ReadLiteral
  | 0, _, _ => none
  | fuel + 1, depth, cs => do
      let gaps := skipGaps (0 < depth) false
      let (kind, after) ← match gaps cs with
        | '+' :: rest | '-' :: rest => do
            let (kind, after) ← atomLiteral fuel depth (gaps rest)
            some (← kind.withSign?, after)
        | content => atomLiteral fuel depth content
      match gaps after with
      | '+' :: rest | '-' :: rest => do
          let (added, after) ← atomLiteral fuel depth (gaps rest)
          -- a sum is a value only if it writes a complex number
          if kind.isReal && added == .imaginary then some (.fixed, after) else none
      | _ => some (kind, after)

/-- The further members up to a closing character; a comma may stand in front of it. -/
def literalMembers : Nat → Nat → Char → List Char → Option (List LiteralKind × List Char)
  | 0, _, _, _ => none
  | fuel + 1, depth, closing, cs =>
      match skipGaps true false cs with
      | [] => none
      | c :: rest =>
          if c == closing then some ([], rest)
          else do
            let (kind, after) ← literalFrom fuel depth (c :: rest)
            match skipGaps true false after with
            | ',' :: rest => do
                let (kinds, rest) ← literalMembers fuel depth closing rest
                some (kind :: kinds, rest)
            | d :: rest => if d == closing then some ([kind], rest) else none
            | [] => none

/-- The further entries of a mapping up to the closing brace, after the value of an entry. -/
def literalEntries : Nat → Nat → List Char → Option (List Char)
  | 0, _, _ => none
  | fuel + 1, depth, cs =>
      match skipGaps true false cs with
      | '\x7d' :: rest => some rest
      | ',' :: rest =>
          match skipGaps true false rest with
          | '\x7d' :: rest => some rest
          | content => do
              let (key, after) ← literalFrom fuel depth content
              if key == .changing then none
              match skipGaps true false after with
              | ':' :: rest => do
                  let (_, after) ← literalFrom fuel depth rest
                  literalEntries fuel depth after
              | _ => none
      | _ => none

end

/-- The values at the start of a text that stand between commas, and the rest. -/
def listedLiterals : Nat → List Char → Option (List Char)
  | 0, _ => none
  | fuel + 1, cs => do
      let (_, after) ← literalFrom (4 * cs.length + 4) 0 cs
      match skipGaps false false after with
      | ',' :: rest =>
          let content := skipGaps false false rest
          if content.isEmpty then some [] else listedLiterals fuel content
      | rest => some rest

/-- Whether a text is a literal, or several ones between commas. -/
def isLiteral (cs : List Char) : Bool :=
  listedLiterals cs.length cs == some []

end ActivityMatrix.Console
