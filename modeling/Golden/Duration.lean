import Golden.Number.Binary64
import Golden.Text.Number
import Golden.Text.Quote

/-!
# Durations

Spans of time in whole nanoseconds, held in 64 bits. A written duration is an optional sign and one
or more decimal numbers with a unit each, as in `1m30s` or `-1.5h`; a lone zero needs no unit. A
fraction is computed in binary floating point and truncated to a nanosecond.
-/

namespace Golden

/-- A span of time in nanoseconds. -/
structure Duration where
  ns : Int
deriving DecidableEq, Repr, Inhabited

namespace Duration

/-- Nanoseconds in a millisecond. -/
def millisecond : Nat := 1000000

/-- Nanoseconds in a second. -/
def second : Nat := 1000000000

/-- The nanoseconds of a unit. The micro sign has two spellings. -/
def unit? (u : Bytes) : Option Nat :=
  if u = utf8 "ns" then some 1
  else if u = utf8 "us" || u = utf8 "\u00b5s" || u = utf8 "\u03bcs" then some 1000
  else if u = utf8 "ms" then some millisecond
  else if u = utf8 "s" then some second
  else if u = utf8 "m" then some (60 * second)
  else if u = utf8 "h" then some (3600 * second)
  else none

/-- The largest magnitude in 64 bits. -/
def magnitudeLimit : Nat := Nat.pow 2 63

/-! ## Reading -/

/-- The value of the digits after a point, as a natural and its number of digits. Digits that would
take the value beyond 63 bits are ignored. -/
def fractionDigits : Bytes → Nat → Nat → Nat × Nat
  | [], x, k => (x, k)
  | b :: s, x, k =>
    let y := x * 10 + (b.toNat - 0x30)
    if x > (magnitudeLimit - 1) / 10 || y > magnitudeLimit then (x, k)
    else fractionDigits s y (k + 1)

/-- Ten to the number of digits behind a point, multiplied up and rounded digit by digit; nothing when
that is no longer finite. -/
def scale : Nat → Option Binary64
  | 0 => Binary64.ofNat 1
  | k + 1 => do (← scale k).mul (← Binary64.ofNat 10)

/-- Nanoseconds of the fraction `f / 10 ^ k` of a unit, in floating point, truncated. An infinite scale
leaves nothing of the unit. -/
def fractionOfUnit (unit f k : Nat) : Nat :=
  let nanoseconds? := do
    let share ← (← Binary64.ofNat unit).div (← scale k)
    (← Binary64.ofNat f).mul share
  nanoseconds?.elim 0 Binary64.floor

/-- A byte that can belong to a unit. -/
def isUnitByte (b : UInt8) : Bool := !(b == '.' || isDigit b)

/-- One number with its unit: its nanoseconds and the rest of the text. -/
def component? (s : Bytes) : Option (Nat × Bytes) :=
  let whole := s.takeWhile isDigit
  let s₁ := s.dropWhile isDigit
  let (hasFraction, fraction, s₂) : Bool × Bytes × Bytes := match s₁ with
    | b :: t => if b = '.' then (true, t.takeWhile isDigit, t.dropWhile isDigit) else (false, [], s₁)
    | [] => (false, [], s₁)
  let value := (readDecimal? whole).getD 0
  if value > magnitudeLimit || (whole.isEmpty && !(hasFraction && !fraction.isEmpty)) then none
  else
    match unit? (s₂.takeWhile isUnitByte) with
    | none => none
    | some unit =>
      if value > magnitudeLimit / unit then none
      else
        let (f, k) := fractionDigits fraction 0 0
        let total := value * unit + (if f > 0 then fractionOfUnit unit f k else 0)
        if total > magnitudeLimit then none else some (total, s₂.dropWhile isUnitByte)

/-- The sum of all components; `fuel` bounds their number. -/
def components? : Nat → Bytes → Nat → Option Nat
  | _, [], sum => some sum
  | 0, _ :: _, _ => none
  | fuel + 1, s, sum =>
    match component? s with
    | none => none
    | some (n, rest) =>
      if sum + n > magnitudeLimit then none else components? fuel rest (sum + n)

/-- Reads the magnitude of a duration. -/
def magnitude? (s : Bytes) : Option Nat :=
  if s = utf8 "0" then some 0
  else if s.isEmpty then none
  else components? s.length s 0

/-- Reads a written duration. -/
def parse? (s : Bytes) : Option Duration :=
  match s with
  | b :: rest =>
    if b = '-' then (magnitude? rest).map fun n => ⟨-(n : Int)⟩
    else
      match magnitude? (if b = '+' then rest else s) with
      | some n => if n < magnitudeLimit then some ⟨n⟩ else none
      | none => none
  | [] => none

/-! ## Writing -/

/-- `n` in decimal with its last `places` digits after a point; trailing zeros are dropped, and the
point with them. -/
def withPlaces (n places : Nat) : Bytes :=
  let frac := Bytes.dropRightWhile (· == '0') (padLeft places 0x30 (decimal (n % Nat.pow 10 places)))
  decimal (n / Nat.pow 10 places) ++ (if n % Nat.pow 10 places = 0 then [] else (0x2e : UInt8) :: frac)

/-- The magnitude with the largest fitting units: a fraction of a second in one unit, longer spans in
hours, minutes and seconds. -/
def magnitudeText (n : Nat) : Bytes :=
  if n = 0 then "0s"
  else if n < 1000 then decimal n ++ utf8 "ns"
  else if n < millisecond then withPlaces n 3 ++ utf8 "\u00b5s"
  else if n < second then withPlaces n 6 ++ utf8 "ms"
  else
    let minutes := n / (60 * second)
    let hours := minutes / 60
    (if hours > 0 then decimal hours ++ utf8 "h" else [])
      ++ (if minutes > 0 then decimal (minutes % 60) ++ utf8 "m" else [])
      ++ withPlaces (n % (60 * second)) 9 ++ utf8 "s"

/-- The written form of a duration. -/
def text (d : Duration) : Bytes :=
  if d.ns < 0 then (0x2d : UInt8) :: magnitudeText d.ns.natAbs else magnitudeText d.ns.natAbs

/-- The nearest multiple of a millisecond, halves away from zero, kept within 64 bits. -/
def roundToMillisecond (d : Duration) : Duration :=
  let n := d.ns.natAbs
  let rounded : Nat := (n + millisecond / 2) / millisecond * millisecond
  if d.ns < 0 then ⟨max (-(rounded : Int)) (-(magnitudeLimit : Int))⟩
  else ⟨min (rounded : Int) ((magnitudeLimit : Int) - 1)⟩

end Duration

end Golden
