/-!
# Binary floating point with 53 bits

The finite non-negative numbers of the 64-bit binary format, held exactly as `mant * 2 ^ exp`, with
one operation: the number nearest to a quotient of naturals, an exact tie going to the even
neighbour. Products and quotients of such numbers are quotients of naturals again, so `mul` and `div`
are one use of `ofRatio` each.

`shortest` finds the fewest decimal digits that read back as the same number.
-/

namespace Golden

/-- A non-negative number `mant * 2 ^ exp`. `ofRatio` keeps `mant < 2 ^ 53` and `-1074 ≤ exp`. -/
structure Binary64 where
  mant : Nat
  exp : Int
deriving DecidableEq, Repr

namespace Binary64

/-- `n * 2 ^ e` as a quotient of naturals. -/
def scaled (n : Nat) (e : Int) : Nat × Nat :=
  if e < 0 then (n, Nat.pow 2 e.natAbs) else (n * Nat.pow 2 e.natAbs, 1)

/-- The number as a quotient of naturals. -/
def toRatio (x : Binary64) : Nat × Nat := scaled x.mant x.exp

/-- A quotient rounded to the nearest natural, a tie to the even one. -/
def roundQuotient (num den : Nat) : Nat :=
  let q := num / den
  let r := num % den
  if 2 * r > den || (2 * r == den && q % 2 == 1) then q + 1 else q

/-- The exponent of two that leaves 53 bits before the point, at least the smallest one. -/
def exponentFor (num den : Nat) : Int :=
  let estimate : Int := (num.log2 : Int) - (den.log2 : Int)
  let (n, d) := scaled num (-estimate)
  let exact := if n < d * den then estimate - 1 else estimate
  max (exact - 52) (-1074)

/-- The number nearest to `num / den`, or nothing when it would be too large to be finite. -/
def ofRatio (num den : Nat) : Option Binary64 :=
  if num = 0 || den = 0 then some ⟨0, 0⟩
  else
    let e := exponentFor num den
    let (n, d) := scaled num (-e)
    let m := roundQuotient n (d * den)
    let x : Binary64 := if m = Nat.pow 2 53 then ⟨Nat.pow 2 52, e + 1⟩ else ⟨m, e⟩
    if x.exp > 971 then none else some x

/-- The number nearest to a natural. -/
def ofNat (n : Nat) : Option Binary64 := ofRatio n 1

/-- The product, or nothing when it would be too large to be finite. -/
def mul (x y : Binary64) : Option Binary64 :=
  let (xn, xd) := x.toRatio
  let (yn, yd) := y.toRatio
  ofRatio (xn * yn) (xd * yd)

/-- The quotient by a positive number, or nothing when it would be too large to be finite. -/
def div (x y : Binary64) : Option Binary64 :=
  let (xn, xd) := x.toRatio
  let (yn, yd) := y.toRatio
  ofRatio (xn * yd) (xd * yn)

/-- The whole part. -/
def floor (x : Binary64) : Nat :=
  let (n, d) := x.toRatio
  n / d

/-! ## Shortest decimal digits -/

/-- `n * 10 ^ e` as a quotient of naturals. -/
def scaledTen (n : Nat) (e : Int) : Nat × Nat :=
  if e < 0 then (n, Nat.pow 10 e.natAbs) else (n * Nat.pow 10 e.natAbs, 1)

/-- Does `d * 10 ^ p` round to `x`? The halfway points to the neighbours round to `x` when its last
bit is even; below a power of two the lower neighbour is half as far away. -/
def readsBack (x : Binary64) (d : Nat) (p : Int) : Bool :=
  let lowerUnits := if x.mant = Nat.pow 2 52 && x.exp > -1074 then 1 else 2
  let (loN, loD) := scaled (4 * x.mant - lowerUnits) (x.exp - 2)
  let (hiN, hiD) := scaled (4 * x.mant + 2) (x.exp - 2)
  let (n, k) := scaledTen d p
  if x.mant % 2 == 0 then loN * k ≤ n * loD && n * hiD ≤ hiN * k
  else loN * k < n * loD && n * hiD < hiN * k

/-- The multiple of `10 ^ p` nearest to `x` that reads back as `x`, if one of its two neighbours on
that grid does. -/
def onGrid (x : Binary64) (p : Int) : Option Nat :=
  let (n, d) := x.toRatio
  let (a, b) := scaledTen 1 p
  let num := n * b
  let den := d * a
  let below := num / den
  let twice := 2 * (num % den)
  let above := below + 1
  let nearAbove := twice > den || (twice == den && below % 2 == 1)
  let okBelow := below > 0 && readsBack x below p
  let okAbove := readsBack x above p
  if okBelow && okAbove then some (if nearAbove then above else below)
  else if okBelow then some below
  else if okAbove then some above
  else none

/-- Drops trailing zeros of a digit string, raising the power of ten. -/
def dropZeros : Nat → Nat → Int → Nat × Int
  | 0, d, p => (d, p)
  | fuel + 1, d, p => if d % 10 == 0 && d != 0 then dropZeros fuel (d / 10) (p + 1) else (d, p)

/-- The first grid, from coarse to fine, that holds a value reading back as `x`. -/
def firstGrid (x : Binary64) : Nat → Int → Option (Nat × Int)
  | 0, _ => none
  | fuel + 1, p =>
    match onGrid x p with
    | some d => some (dropZeros 20 d p)
    | none => firstGrid x fuel (p - 1)

/-- The number of decimal digits of a natural. -/
def digitCount (n : Nat) : Nat := (Nat.toDigits 10 n).length

/-- The power of ten of the leading digit of `x`, or one more. -/
def leadingPower (x : Binary64) : Int :=
  let (n, d) := x.toRatio
  (digitCount n : Int) - (digitCount d : Int) + 1

/-- The fewest digits that read back as `x`, as a natural and a power of ten. Seventeen always
suffice, so the search over twenty grids ends with an answer. -/
def shortest (x : Binary64) : Nat × Int :=
  if x.mant = 0 then (0, 0)
  else (firstGrid x 22 x.leadingPower).getD (x.floor, 0)

end Binary64

end Golden
