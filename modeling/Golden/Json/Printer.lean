import Golden.Json.Basic
import Golden.Number.Binary64
import Golden.Text.Number
import Golden.Text.Rune

/-!
# Writing JSON

Values are written without blanks. In strings the characters that are special to HTML and the two
Unicode line separators are escaped, and every byte that is not UTF-8 becomes the replacement
character. Floating-point numbers take the fewest digits that read back, positionally from `1e-6` up
to below `1e21` and with an exponent elsewhere.
-/

namespace Golden.Json

/-- A character below `80` that is written as an escape, with its escape. -/
def asciiEscape? (n : Nat) : Option Bytes :=
  if n = 0x22 then some "\\\""
  else if n = 0x5c then some "\\\\"
  else if n = 0x08 then some "\\b"
  else if n = 0x0c then some "\\f"
  else if n = 0x0a then some "\\n"
  else if n = 0x0d then some "\\r"
  else if n = 0x09 then some "\\t"
  else if n < 0x20 || n = 0x3c || n = 0x3e || n = 0x26 then some ("\\u" ++ hexPadded 4 n)
  else none

/-- One place of a written string. -/
def printRune (r : Rune) : Bytes :=
  let n := r.shown.toNat
  if n = 0x2028 || n = 0x2029 then "\\u" ++ hexPadded 4 n
  else (asciiEscape? n).getD (String.utf8EncodeChar r.shown)

/-- A written string. -/
def printString (s : Bytes) : Bytes := (0x22 : UInt8) :: (runes s).flatMap printRune ++ [0x22]

/-! ## Floating-point numbers -/

/-- Digits with the point `point` places after their start, without an exponent. -/
def positional (ds : Bytes) (point : Int) : Bytes :=
  if point ≤ 0 then utf8 "0." ++ List.replicate point.natAbs 0x30 ++ ds
  else if ds.length ≤ point.natAbs then ds ++ List.replicate (point.natAbs - ds.length) 0x30
  else ds.take point.natAbs ++ (0x2e : UInt8) :: ds.drop point.natAbs

/-- Digits with the point after the first one, and the exponent. -/
def scientific (ds : Bytes) (exponent : Int) : Bytes :=
  ds.take 1 ++ (if ds.length > 1 then (0x2e : UInt8) :: ds.drop 1 else [])
    ++ (if exponent < 0 then "e-" else "e+") ++ decimal exponent.natAbs

/-- The text of a non-negative floating-point number. -/
def floatText (x : Binary64) : Bytes :=
  if x.mant = 0 then "0"
  else
    let (n, p) := x.shortest
    let ds := decimal n
    let point : Int := p + ds.length
    if -6 < point && point ≤ 21 then positional ds point else scientific ds (point - 1)

/-! ## Values -/

mutual

/-- The text of a value. -/
def print : Json → Bytes
  | .null => "null"
  | .bool b => if b then "true" else "false"
  | .number t => t
  | .string s => printString s
  | .array items => "[" ++ printItems items ++ "]"
  | .object members => "\x7b" ++ printMembers members ++ "\x7d"

/-- The items of an array, with commas between them. -/
def printItems : List Json → Bytes
  | [] => []
  | v :: vs => print v ++ (if vs.isEmpty then [] else utf8 "," ++ printItems vs)

/-- The members of an object, with commas between them. -/
def printMembers : List (Bytes × Json) → Bytes
  | [] => []
  | (key, v) :: ms =>
    printString key ++ ":" ++ print v ++ (if ms.isEmpty then [] else utf8 "," ++ printMembers ms)

end

end Golden.Json
