import Golden.Text.Number
import Golden.Text.Printable
import Golden.Text.Rune

/-!
# Quoted texts

Messages show file names and values in double quotes, with backslash escapes for quotes, backslashes
and everything that is not printable.
-/

namespace Golden

/-- The letter of the short escape of a control character. -/
def shortEscape? (c : Char) : Option Char :=
  match c.toNat with
  | 0x07 => some 'a'
  | 0x08 => some 'b'
  | 0x0c => some 'f'
  | 0x0a => some 'n'
  | 0x0d => some 'r'
  | 0x09 => some 't'
  | 0x0b => some 'v'
  | _ => none

/-- The escape of a character that is not printable. -/
def escapeChar (c : Char) : Bytes :=
  match shortEscape? c with
  | some e => [0x5c, (e : UInt8)]
  | none =>
    let n := c.toNat
    if n < 0x80 then "\\x" ++ hexPadded 2 n
    else if n < 0x10000 then "\\u" ++ hexPadded 4 n
    else "\\U" ++ hexPadded 8 n

/-- One place of a quoted text. -/
def quoteRune : Rune → Bytes
  | .stray b => "\\x" ++ hexPadded 2 b.toNat
  | .char c =>
    if c = '"' || c = '\\' then [0x5c, (c : UInt8)]
    else if isPrintable c then String.utf8EncodeChar c
    else escapeChar c

/-- The quoted text without its quotes. -/
def quoteBody (s : Bytes) : Bytes := (runes s).flatMap quoteRune

/-- The text in double quotes. -/
def quote (s : Bytes) : Bytes := (0x22 : UInt8) :: quoteBody s ++ [0x22]

end Golden
