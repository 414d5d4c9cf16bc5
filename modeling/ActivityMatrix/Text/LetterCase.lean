import ActivityMatrix.Text.CaseTable

/-!
# Capital and small letters

A text in small letters, and a text with a capital letter at its start. Two letters have rules of
their own: the dotted capital I becomes a small i with a dot above it, and a capital sigma at the
end of a word becomes the small sigma that ends words. A few letters, such as the sharp s, are
written by several letters at the start of a title.
-/

namespace ActivityMatrix.Text

/-- The small letter of a capital one; any other character stays as it is. -/
def smallLetter (c : Char) : Char :=
  match caseRuns.find? (·.contains c.toNat) with
  | some run => Char.ofNat (run.apply c.toNat)
  | none => c

/-- The capital letter of a small one as it stands at the start of a title; any other character
stays as it is. -/
def capitalLetter (c : Char) : Char :=
  match titleRuns.find? (·.contains c.toNat) with
  | some run => Char.ofNat (run.apply c.toNat)
  | none =>
      match caseRuns.find? (·.reaches c.toNat) with
      | some run => Char.ofNat (run.undo c.toNat)
      | none => c

/-- A letter as it stands at the start of a title. -/
def titleLetters (c : Char) : List Char :=
  match titleExpansions.lookup c.toNat with
  | some codes => codes.map Char.ofNat
  | none => [capitalLetter c]

/-! ## Sigma at the end of a word -/

def isCased (c : Char) : Bool :=
  inRanges casedRanges c.toNat

/-- Whether a look for letters with a case passes over a character. -/
def isCasePassed (c : Char) : Bool :=
  inRanges nonspacingMarks c.toNat || isFormat c || inRanges casePassedRanges c.toNat

/-- Whether the first character that is not passed over has a case. -/
def meetsCased (cs : List Char) : Bool :=
  match cs.dropWhile isCasePassed with
  | c :: _ => isCased c
  | [] => false

def capitalSigma : Char := 'Σ'

/-- The small sigma between the characters `before`, in reverse, and `after`: at the end of a word
it has a form of its own. -/
def smallSigma (before after : List Char) : Char :=
  if meetsCased before && !meetsCased after then 'ς' else 'σ'

/-! ## Texts -/

/-- The small letters of a character between `before`, in reverse, and `after`. -/
def smallLetters (before : List Char) (c : Char) (after : List Char) : List Char :=
  if c == capitalSigma then [smallSigma before after]
  else if c == 'İ' then ['i', '\u0307']
  else [smallLetter c]

/-- Characters in small letters, after the characters `before` in reverse. -/
def lowerAfter (before : List Char) : List Char → List Char
  | [] => []
  | c :: rest => smallLetters before c rest ++ lowerAfter (c :: before) rest

def lower (s : String) : String :=
  String.ofList (lowerAfter [] s.toList)

/-- A text with its first letter as a capital one and its other letters as small ones. -/
def capitalized (s : String) : String :=
  match s.toList with
  | [] => ""
  | c :: rest => String.ofList (titleLetters c ++ lowerAfter [c] rest)

end ActivityMatrix.Text
