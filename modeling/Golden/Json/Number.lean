import Golden.Json.Parser
import Golden.Text.Number

/-!
# The value of a number literal

A literal stands for a natural number times a power of ten, with a sign. Whether that is a whole
number does not depend on how it is written: `1.0`, `1e2` and `100e-2` are whole.
-/

namespace Golden.Json

/-- A signed natural number times a power of ten. -/
structure Decimal where
  negative : Bool
  mantissa : Nat
  exponent : Int
deriving DecidableEq, Repr

/-- The value of a string of digits. -/
def digitsValue (s : Bytes) : Nat := (readDecimal? s).getD 0

/-- The value of an exponent with its sign. -/
def signedValue (s : Bytes) : Int :=
  match s with
  | b :: rest =>
    if b = '-' then -(digitsValue rest : Int)
    else if b = '+' then digitsValue rest
    else digitsValue s
  | [] => 0

/-- The value of a number literal. -/
def Decimal.ofLiteral (s : Bytes) : Decimal :=
  let negative := s.head? == some 0x2d
  let body := if negative then s.drop 1 else s
  let isExponentMark : UInt8 → Bool := fun b => b == 'e' || b == 'E'
  let significand := body.takeWhile (!isExponentMark ·)
  let exponent := signedValue ((body.dropWhile (!isExponentMark ·)).drop 1)
  let (whole, fraction) := Bytes.cut '.' significand
  let fraction := fraction.getD []
  ⟨negative, digitsValue (whole ++ fraction), exponent - fraction.length⟩

/-- Divides by ten as often as a negative exponent asks, if nothing is lost. -/
def Decimal.shiftRight? : Nat → Nat → Option Nat
  | 0, n => some n
  | k + 1, n => if n = 0 then some 0 else if n % 10 = 0 then shiftRight? k (n / 10) else none

/-- Largest power of ten that is multiplied out. A larger one only shows in the digits of a number
that is far out of every range anyway. -/
def Decimal.maxPower : Nat := 400

/-- The whole number that the value is, if it is one. -/
def Decimal.integer? (d : Decimal) : Option Int :=
  let magnitude : Option Nat :=
    if d.exponent < 0 then shiftRight? d.exponent.natAbs d.mantissa
    else some (d.mantissa * Nat.pow 10 (min d.exponent.natAbs maxPower))
  magnitude.map fun n => if d.negative then -(n : Int) else n

end Golden.Json
