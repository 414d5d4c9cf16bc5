import ActivityMatrix.Text.Marks

/-!
# Columns

How many columns of a console a text takes. Most characters take one; those of East Asian scripts
and most emoji take two; controls, marks and format characters take none. A joiner draws the
character behind it into the one before it, and a selector makes a narrow emoji before it a wide
one. For the cutting of lines, what is drawn into a character belongs to it.
-/

namespace ActivityMatrix.Console

/-- The code point ranges, ends included, of the characters that take two columns. -/
def wideRanges : List (Nat × Nat) :=
  [(0x1100, 0x115F), (0x231A, 0x231B), (0x2329, 0x232A), (0x23E9, 0x23EC), (0x23F0, 0x23F0),
   (0x23F3, 0x23F3), (0x25FD, 0x25FE), (0x2614, 0x2615), (0x2630, 0x2637), (0x2648, 0x2653),
   (0x267F, 0x267F), (0x268A, 0x268F), (0x2693, 0x2693), (0x26A1, 0x26A1), (0x26AA, 0x26AB),
   (0x26BD, 0x26BE), (0x26C4, 0x26C5), (0x26CE, 0x26CE), (0x26D4, 0x26D4), (0x26EA, 0x26EA),
   (0x26F2, 0x26F3), (0x26F5, 0x26F5), (0x26FA, 0x26FA), (0x26FD, 0x26FD), (0x2705, 0x2705),
   (0x270A, 0x270B), (0x2728, 0x2728), (0x274C, 0x274C), (0x274E, 0x274E), (0x2753, 0x2755),
   (0x2757, 0x2757), (0x2795, 0x2797), (0x27B0, 0x27B0), (0x27BF, 0x27BF), (0x2B1B, 0x2B1C),
   (0x2B50, 0x2B50), (0x2B55, 0x2B55), (0x2E80, 0x2E99), (0x2E9B, 0x2EF3), (0x2F00, 0x2FD5),
   (0x2FF0, 0x3029), (0x3030, 0x303E), (0x3041, 0x3096), (0x309B, 0x30FF), (0x3105, 0x312F),
   (0x3131, 0x318E), (0x3190, 0x31E5), (0x31EF, 0x321E), (0x3220, 0x3247), (0x3250, 0xA48C),
   (0xA490, 0xA4C6), (0xA960, 0xA97C), (0xAC00, 0xD7A3), (0xF900, 0xFAFF), (0xFE10, 0xFE19),
   (0xFE30, 0xFE52), (0xFE54, 0xFE66), (0xFE68, 0xFE6B), (0xFF01, 0xFF60), (0xFFE0, 0xFFE6),
   (0x16FE0, 0x16FE3), (0x17000, 0x187F7), (0x18800, 0x18CD5), (0x18D00, 0x18D08),
   (0x1AFF0, 0x1AFF3), (0x1AFF5, 0x1AFFB), (0x1AFFD, 0x1AFFE), (0x1B000, 0x1B122),
   (0x1B132, 0x1B132), (0x1B150, 0x1B152), (0x1B155, 0x1B155), (0x1B164, 0x1B167),
   (0x1B170, 0x1B2FB), (0x1D300, 0x1D356), (0x1D360, 0x1D376), (0x1F004, 0x1F004),
   (0x1F0CF, 0x1F0CF), (0x1F18E, 0x1F18E), (0x1F191, 0x1F19A), (0x1F200, 0x1F202),
   (0x1F210, 0x1F23B), (0x1F240, 0x1F248), (0x1F250, 0x1F251), (0x1F260, 0x1F265),
   (0x1F300, 0x1F320), (0x1F32D, 0x1F335), (0x1F337, 0x1F37C), (0x1F37E, 0x1F393),
   (0x1F3A0, 0x1F3CA), (0x1F3CF, 0x1F3D3), (0x1F3E0, 0x1F3F0), (0x1F3F4, 0x1F3F4),
   (0x1F3F8, 0x1F3FA), (0x1F400, 0x1F43E), (0x1F440, 0x1F440), (0x1F442, 0x1F4FC),
   (0x1F4FF, 0x1F53D), (0x1F54B, 0x1F54E), (0x1F550, 0x1F567), (0x1F57A, 0x1F57A),
   (0x1F595, 0x1F596), (0x1F5A4, 0x1F5A4), (0x1F5FB, 0x1F64F), (0x1F680, 0x1F6C5),
   (0x1F6CC, 0x1F6CC), (0x1F6D0, 0x1F6D2), (0x1F6D5, 0x1F6D8), (0x1F6DC, 0x1F6DF),
   (0x1F6EB, 0x1F6EC), (0x1F6F4, 0x1F6FC), (0x1F7E0, 0x1F7EB), (0x1F7F0, 0x1F7F0),
   (0x1F90C, 0x1F93A), (0x1F93C, 0x1F945), (0x1F947, 0x1F9FF), (0x1FA70, 0x1FA7C),
   (0x1FA80, 0x1FA8A), (0x1FA8E, 0x1FAC6), (0x1FAC8, 0x1FAC8), (0x1FACD, 0x1FADC),
   (0x1FADF, 0x1FAEA), (0x1FAEF, 0x1FAF8), (0x20000, 0x2FFFD), (0x30000, 0x3FFFD)]

/-- The code point ranges, ends included, of the narrow characters that can be shown as wide
emoji. -/
def widenedRanges : List (Nat × Nat) :=
  [(0x23, 0x23), (0x2A, 0x2A), (0x30, 0x39), (0xA9, 0xA9), (0xAE, 0xAE), (0x203C, 0x203C),
   (0x2049, 0x2049), (0x2122, 0x2122), (0x2139, 0x2139), (0x2194, 0x2199), (0x21A9, 0x21AA),
   (0x2328, 0x2328), (0x23CF, 0x23CF), (0x23ED, 0x23EF), (0x23F1, 0x23F2), (0x23F8, 0x23FA),
   (0x24C2, 0x24C2), (0x25AA, 0x25AB), (0x25B6, 0x25B6), (0x25C0, 0x25C0), (0x25FB, 0x25FC),
   (0x2600, 0x2604), (0x260E, 0x260E), (0x2611, 0x2611), (0x2618, 0x2618), (0x261D, 0x261D),
   (0x2620, 0x2620), (0x2622, 0x2623), (0x2626, 0x2626), (0x262A, 0x262A), (0x262E, 0x262F),
   (0x2638, 0x263A), (0x2640, 0x2640), (0x2642, 0x2642), (0x265F, 0x2660), (0x2663, 0x2663),
   (0x2665, 0x2666), (0x2668, 0x2668), (0x267B, 0x267B), (0x267E, 0x267E), (0x2692, 0x2692),
   (0x2694, 0x2697), (0x2699, 0x2699), (0x269B, 0x269C), (0x26A0, 0x26A0), (0x26A7, 0x26A7),
   (0x26B0, 0x26B1), (0x26C8, 0x26C8), (0x26CF, 0x26CF), (0x26D1, 0x26D1), (0x26D3, 0x26D3),
   (0x26E9, 0x26E9), (0x26F0, 0x26F1), (0x26F4, 0x26F4), (0x26F7, 0x26F9), (0x2702, 0x2702),
   (0x2708, 0x2709), (0x270C, 0x270D), (0x270F, 0x270F), (0x2712, 0x2712), (0x2714, 0x2714),
   (0x2716, 0x2716), (0x271D, 0x271D), (0x2721, 0x2721), (0x2733, 0x2734), (0x2744, 0x2744),
   (0x2747, 0x2747), (0x2763, 0x2764), (0x27A1, 0x27A1), (0x2934, 0x2935), (0x2B05, 0x2B07),
   (0x1F170, 0x1F171), (0x1F17E, 0x1F17F), (0x1F321, 0x1F321), (0x1F324, 0x1F32C),
   (0x1F336, 0x1F336), (0x1F37D, 0x1F37D), (0x1F396, 0x1F397), (0x1F399, 0x1F39B),
   (0x1F39E, 0x1F39F), (0x1F3CB, 0x1F3CE), (0x1F3D4, 0x1F3DF), (0x1F3F3, 0x1F3F3),
   (0x1F3F5, 0x1F3F5), (0x1F3F7, 0x1F3F7), (0x1F43F, 0x1F43F), (0x1F441, 0x1F441),
   (0x1F4FD, 0x1F4FD), (0x1F549, 0x1F54A), (0x1F56F, 0x1F570), (0x1F573, 0x1F579),
   (0x1F587, 0x1F587), (0x1F58A, 0x1F58D), (0x1F590, 0x1F590), (0x1F5A5, 0x1F5A5),
   (0x1F5A8, 0x1F5A8), (0x1F5B1, 0x1F5B2), (0x1F5BC, 0x1F5BC), (0x1F5C2, 0x1F5C4),
   (0x1F5D1, 0x1F5D3), (0x1F5DC, 0x1F5DE), (0x1F5E1, 0x1F5E1), (0x1F5E3, 0x1F5E3),
   (0x1F5E8, 0x1F5E8), (0x1F5EF, 0x1F5EF), (0x1F5F3, 0x1F5F3), (0x1F5FA, 0x1F5FA),
   (0x1F6CB, 0x1F6CB), (0x1F6CD, 0x1F6CF), (0x1F6E0, 0x1F6E5), (0x1F6E9, 0x1F6E9),
   (0x1F6F0, 0x1F6F0), (0x1F6F3, 0x1F6F3)]

/-- The code point ranges, ends included, of characters that take no column, apart from controls,
marks and format characters: vowels and endings of Hangul syllables, separators of lines and
paragraphs, and skin tones. -/
def emptyRanges : List (Nat × Nat) :=
  [(0x00, 0x00), (0x1160, 0x11FF), (0x2028, 0x2029), (0xD7B0, 0xD7FF),
   (0x1F3FB, 0x1F3FF)]

def isControl (c : Char) : Bool :=
  c.toNat < 0x20 || (0x7F ≤ c.toNat && c.toNat < 0xA0)

/-- How many columns a character takes by itself. The tables need not be looked at for ASCII. -/
def columnsOf (c : Char) : Nat :=
  if ' ' ≤ c && c ≤ '~' then 1
  else if isControl c || Text.isMark c || Text.isFormat c || Text.inRanges emptyRanges c.toNat then
    0
  else if Text.inRanges wideRanges c.toNat then 2
  else 1

/-- The character that joins the one behind it to the one before it. -/
def joiner : Char := '\u200d'

/-- The character that asks for the one before it to be shown as an emoji. -/
def emojiSelector : Char := '\ufe0f'

/-- Whether a character takes one column by itself and two as an emoji. -/
def isWidened (c : Char) : Bool :=
  Text.inRanges widenedRanges c.toNat

/-! ## The width of a text -/

/-- How many columns characters take, behind the character `shown`, the last one that takes any. -/
def columnsAfter (shown : Option Char) : List Char → Nat
  | [] => 0
  | c :: rest =>
      if c == joiner then
        match rest with
        -- the joined character is drawn into the one before it
        | _ :: after => columnsAfter shown after
        | [] => 0
      else if c == emojiSelector then
        (if shown.any isWidened then 1 else 0) + columnsAfter none rest
      else
        let width := columnsOf c
        width + columnsAfter (if width = 0 then shown else some c) rest

/-- How many columns characters take. -/
def columns (cs : List Char) : Nat :=
  columnsAfter none cs

/-! ## Where a text can be cut -/

/-- Characters that are drawn as one, and how many columns they take. -/
structure Glyph where
  reversed : List Char
  width : Nat
  deriving DecidableEq, Repr, Inhabited

namespace Glyph

/-- The glyph with more characters, in reverse, behind it. -/
def extend (glyph : Glyph) (more : List Char) : Glyph :=
  { glyph with reversed := more ++ glyph.reversed }

def chars (glyphs : List Glyph) : List Char :=
  glyphs.flatMap fun glyph => glyph.reversed.reverse

end Glyph

/-- The glyphs of characters behind the glyph `last` and the character `shown`, the last one that
takes a column and was not widened. -/
def glyphsAfter (last : Glyph) (shown : Option Char) : List Char → List Glyph
  | [] => [last]
  | c :: rest =>
      if c == joiner then
        match rest with
        | d :: after => glyphsAfter (last.extend [d, c]) shown after
        | [] => [last.extend [c]]
      else if c == emojiSelector then
        if shown.any isWidened then
          glyphsAfter { last.extend [c] with width := last.width + 1 } none rest
        else glyphsAfter (last.extend [c]) shown rest
      else
        let width := columnsOf c
        if width = 0 then glyphsAfter (last.extend [c]) shown rest
        else last :: glyphsAfter ⟨[c], width⟩ (some c) rest

/-- The glyphs of characters. What has no character before it to be drawn into stands for itself. -/
def glyphs : List Char → List Glyph
  | [] => []
  | c :: rest =>
      let width := if c == joiner || c == emojiSelector then 0 else columnsOf c
      glyphsAfter ⟨[c], width⟩ (if width = 0 then none else some c) rest

/-- The glyphs that fit into a number of columns; a blank stands for one that would need one column
too many, so that the columns are filled. -/
def fill : Nat → List Glyph → List Char
  | _, [] => []
  | room, glyph :: rest =>
      if glyph.width ≤ room then
        if room = glyph.width && 0 < room then glyph.reversed.reverse
        else glyph.reversed.reverse ++ fill (room - glyph.width) rest
      else if 0 < room then [' '] else []

/-- Characters cut to a number of columns. -/
def cut (width : Nat) (cs : List Char) : List Char :=
  if columns cs ≤ width then cs else fill width (glyphs cs)

end ActivityMatrix.Console
