import Golden.Text.Bytes

/-!
# Base64

Binary data written with 64 letters, four of them for three bytes. Line ends between the letters mean
nothing, and the last group is filled up with `=`.
-/

namespace Golden.Base64

/-- The value of a letter. -/
def value? (b : UInt8) : Option Nat :=
  if 0x41 ≤ b && b ≤ 0x5a then some (b.toNat - 0x41)
  else if 0x61 ≤ b && b ≤ 0x7a then some (b.toNat - 0x61 + 26)
  else if isDigit b then some (b.toNat - 0x30 + 52)
  else if b = '+' then some 62
  else if b = '/' then some 63
  else none

/-- The byte with a given value, high bits dropped. -/
def byte (n : Nat) : UInt8 := UInt8.ofNat (n % 256)

/-- The fill letter. -/
def fill : UInt8 := '='

/-- The bytes of a text of letters and fill letters. -/
def groups? : Bytes → Option Bytes
  | [] => some []
  | [a, b, c, d] => do
    let x := (← value? a) * 64 + (← value? b)
    if c = fill then
      if d = fill then return [byte (x / 16)] else none
    else
      let y := x * 64 + (← value? c)
      if d = fill then return [byte (y / 1024), byte (y / 4)]
      let z := y * 64 + (← value? d)
      return [byte (z / 65536), byte (z / 256), byte z]
  | a :: b :: c :: d :: rest => do
    let z := (((← value? a) * 64 + (← value? b)) * 64 + (← value? c)) * 64 + (← value? d)
    return byte (z / 65536) :: byte (z / 256) :: byte z :: (← groups? rest)
  | _ => none

/-- The bytes that a text stands for. -/
def decode? (s : Bytes) : Option Bytes :=
  groups? (s.filter fun b => !(b == 0x0a || b == 0x0d))

end Golden.Base64
