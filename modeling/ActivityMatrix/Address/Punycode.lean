/-!
# Punycode

A way to write any text with the characters of ASCII alone. The characters of the text that are of
ASCII come first, with a hyphen after them if there are any. Then it is told, in the order of their
code points, where the others are to be put in: every insertion is told by its distance from the one
before it, which counts all places of all code points between them. A distance is written in digits,
the least significant first. Which digit is the last one is seen from a threshold that goes with
the sizes of the distances before it.
-/

namespace ActivityMatrix.Address.Punycode

/-! ## Digits -/

def base : Nat := 36

/-- The digit of a value: the letters come first, then the figures. -/
def digit (value : Nat) : Char :=
  if value < 26 then Char.ofNat ('a'.toNat + value) else Char.ofNat ('0'.toNat + (value - 26))

/-- The value of a digit. Capital letters are the same as small ones. -/
def digitValue? (c : Char) : Option Nat :=
  if c.isLower then some (c.toNat - 'a'.toNat)
  else if c.isUpper then some (c.toNat - 'A'.toNat)
  else if c.isDigit then some (26 + (c.toNat - '0'.toNat))
  else none

/-- The value that the digit at a place has to reach to be followed by another one. -/
def threshold (bias place : Nat) : Nat :=
  max 1 (min 26 (base * (place + 1) - bias))

/-- A threshold is at least one. -/
theorem threshold_pos (bias place : Nat) : 0 < threshold bias place := by
  simp only [threshold]; omega

/-- A number in digits, from a place on. -/
def writeNumber (bias place n : Nat) : List Char :=
  let limit := threshold bias place
  if n < limit then [digit n]
  else
    let more := n - limit
    digit (limit + more % (base - limit)) :: writeNumber bias (place + 1) (more / (base - limit))
termination_by n
decreasing_by
  have hpos := threshold_pos bias place
  have hdiv := Nat.div_le_self (n - threshold bias place) (base - threshold bias place)
  omega

/-- Adds the number that starts a text, in digits from a place on that count `weight` each, to a
sum, and gives what follows it. -/
def readNumber (bias place weight sum : Nat) : List Char → Option (Nat × List Char)
  | [] => none
  | c :: rest => do
      let value ← digitValue? c
      let limit := threshold bias place
      let sum := sum + value * weight
      if value < limit then some (sum, rest)
      else readNumber bias (place + 1) (weight * (base - limit)) sum rest

/-! ## Bias -/

/-- The bias for a size, which is made small first. -/
def biasOf (size sum : Nat) : Nat :=
  if 455 < size then biasOf (size / 35) (sum + base) else sum + base * size / (size + 38)
termination_by size
decreasing_by omega

/-- The bias after an insertion into a text that has `count` characters then. -/
def nextBias (distance count : Nat) (isFirst : Bool) : Nat :=
  let size := if isFirst then distance / 700 else distance / 2
  biasOf (size + size / count) 0

/-- Where the telling of insertions stands. -/
structure Progress where
  bias : Nat := 72
  isFirst : Bool := true
  /-- The code point of the last insertion. -/
  code : Nat := 0x80
  /-- The place behind the last insertion. -/
  index : Nat := 0
  deriving Repr, Inhabited

/-- The progress after an insertion into a text that has `count` characters then. -/
def Progress.after (progress : Progress) (distance count code index : Nat) : Progress where
  bias := nextBias distance count progress.isFirst
  isFirst := false
  code := code
  index := index + 1

/-! ## Writing -/

def isAscii (c : Char) : Bool :=
  c.toNat < 0x80

/-- The characters outside ASCII in the order in which they are inserted, by code points, with the
places at which they are inserted. -/
def insertions (cs : List Char) : List (Nat × Nat) :=
  let others := (cs.zipIdx.filter (!isAscii ·.1)).mergeSort fun a b => a.1.toNat ≤ b.1.toNat
  others.map fun (c, i) => (c.toNat, ((cs.take i).filter (·.toNat ≤ c.toNat)).length)

/-- Tells insertions into a text of `count` characters. -/
def writeInsertions (progress : Progress) (count : Nat) : List (Nat × Nat) → List Char
  | [] => []
  | (code, index) :: rest =>
      let distance := (code - progress.code) * (count + 1) + index - progress.index
      writeNumber progress.bias 0 distance
        ++ writeInsertions (progress.after distance (count + 1) code index) (count + 1) rest

/-- Characters, written with those of ASCII. -/
def encode (cs : List Char) : List Char :=
  let kept := cs.filter isAscii
  (if kept.isEmpty then [] else kept ++ ['-'])
    ++ writeInsertions {} kept.length (insertions cs)

/-! ## Reading -/

/-- Does what insertions tell. The fuel is the number of characters. -/
def insertWithin : Nat → Progress → List Char → List Char → Option (List Char)
  | _, _, done, [] => some done
  | 0, _, _, _ :: _ => none
  | fuel + 1, progress, done, cs => do
      let (distance, rest) ← readNumber progress.bias 0 1 0 cs
      let count := done.length + 1
      -- a distance counts the places of one code point after those of another
      let way := progress.index + distance
      let code := progress.code + way / count
      if !code.isValidChar then none
      else
        let index := way % count
        insertWithin fuel (progress.after distance count code index)
          (done.insertIdx index (Char.ofNat code)) rest

/-- The characters that are written with those of ASCII. -/
def decode? (cs : List Char) : Option (List Char) :=
  let told := (cs.reverse.takeWhile (· != '-')).reverse
  let kept := (cs.take (cs.length - told.length)).dropLast
  insertWithin told.length {} kept told

end ActivityMatrix.Address.Punycode
