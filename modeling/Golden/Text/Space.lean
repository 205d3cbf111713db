import Golden.Text.Rune

/-!
# White space

What counts as a blank when words are split and texts are trimmed: the ASCII blanks and the
characters with the Unicode property `White_Space`. The zero-width space is not one of them.
-/

namespace Golden

/-- A white-space character. -/
def isSpace (c : Char) : Bool :=
  let n := c.toNat
  (0x09 ≤ n && n ≤ 0x0d) || n == 0x20 || n == 0x85 || n == 0xa0 || n == 0x1680
    || (0x2000 ≤ n && n ≤ 0x200a) || n == 0x2028 || n == 0x2029 || n == 0x202f || n == 0x205f
    || n == 0x3000

/-- A place that holds a white-space character. -/
def Rune.isSpace : Rune → Bool
  | .char c => Golden.isSpace c
  | .stray _ => false

/-- The bytes of a list of places. -/
def encodeRunes (rs : List Rune) : Bytes := rs.flatMap Rune.bytes

/-- Drops white space at both ends. -/
def trimSpace (s : Bytes) : Bytes :=
  encodeRunes (((runes s).dropWhile Rune.isSpace).reverse.dropWhile Rune.isSpace).reverse

/-- Is there nothing but white space? -/
def isBlank (s : Bytes) : Bool := (runes s).all Rune.isSpace

/-- The words of a list of places; `word` is the word in progress, in reverse. -/
def wordsFrom (word : List Rune) : List Rune → List (List Rune)
  | [] => if word.isEmpty then [] else [word.reverse]
  | r :: rs =>
    if r.isSpace then
      if word.isEmpty then wordsFrom [] rs else word.reverse :: wordsFrom [] rs
    else wordsFrom (r :: word) rs

/-- The words of a text: its longest stretches without white space. -/
def fields (s : Bytes) : List Bytes := (wordsFrom [] (runes s)).map encodeRunes

end Golden
