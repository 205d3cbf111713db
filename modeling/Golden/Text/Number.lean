import Golden.Text.Bytes

/-!
# Integers as text

Decimal and hexadecimal digits, and the reader for decimal integers of 64 bits.
-/

namespace Golden

/-- The digits of a natural number in a base up to sixteen. -/
def digits (base n : Nat) : Bytes := (Nat.toDigits base n).map Char.toUInt8

/-- A natural number in decimal. -/
def decimal (n : Nat) : Bytes := digits 10 n

/-- An integer in decimal, with a minus sign when it is negative. -/
def decimalInt (i : Int) : Bytes :=
  if i < 0 then (0x2d : UInt8) :: decimal i.natAbs else decimal i.natAbs

/-- Pads on the left with a byte up to a width. -/
def padLeft (width : Nat) (b : UInt8) (s : Bytes) : Bytes :=
  List.replicate (width - s.length) b ++ s

/-- A number in hexadecimal with at least `width` digits. -/
def hexPadded (width n : Nat) : Bytes := padLeft width 0x30 (digits 16 n)

/-- The value of a non-empty list of decimal digits. -/
def readDecimal? (s : Bytes) : Option Nat :=
  if s.isEmpty || !s.all isDigit then none
  else some (s.foldl (fun n b => n * 10 + (b.toNat - 0x30)) 0)

/-- Does the integer fit in 64 bits? -/
def fitsInt64 (i : Int) : Bool := -9223372036854775808 ≤ i && i ≤ 9223372036854775807

/-- Reads a decimal integer of 64 bits with an optional sign. -/
def readInt64? (s : Bytes) : Option Int :=
  let (negative, body) : Bool × Bytes := match s with
    | b :: rest => if b = '-' then (true, rest) else if b = '+' then (false, rest) else (false, s)
    | [] => (false, s)
  match readDecimal? body with
  | none => none
  | some n =>
    let i : Int := if negative then -(n : Int) else n
    if fitsInt64 i then some i else none

end Golden
