import Golden.Text.Number

/-!
# Timestamps in plain scalars

A date, or a date and a time of day: `2001-1-2`, `2001-1-2T3:04:05.6Z`, `2001-1-2t3:4:5+01:00` or, without
a zone, `2001-1-2 3:4:5`. Months, days, hours, minutes and seconds have one or two digits. A timestamp
is written back in full, with the fraction of the second as short as it can be.
-/

namespace Golden.Yaml

/-- A point in time with its zone. -/
structure Timestamp where
  year : Nat
  month : Nat
  day : Nat
  hour : Nat := 0
  minute : Nat := 0
  second : Nat := 0
  nanosecond : Nat := 0
  /-- The minutes from universal time, if they are written. -/
  zone : Option Int := none
deriving DecidableEq, Repr

namespace Timestamp

/-! ## Reading -/

/-- Reads one or two digits. -/
def shortNumber? : Bytes → Option (Nat × Bytes)
  | a :: b :: s =>
    if isDigit a then
      if isDigit b then some ((a.toNat - 0x30) * 10 + (b.toNat - 0x30), s)
      else some (a.toNat - 0x30, b :: s)
    else none
  | [a] => if isDigit a then some (a.toNat - 0x30, []) else none
  | [] => none

/-- Reads exactly two digits. -/
def twoDigits? : Bytes → Option (Nat × Bytes)
  | a :: b :: s =>
    if isDigit a && isDigit b then some ((a.toNat - 0x30) * 10 + (b.toNat - 0x30), s) else none
  | _ => none

/-- Reads a given byte. -/
def byte? (x : UInt8) : Bytes → Option Bytes
  | b :: s => if b = x then some s else none
  | [] => none

/-- Reads one or more spaces. -/
def spaces? (s : Bytes) : Option Bytes :=
  match s with
  | b :: _ => if b = ' ' then some (s.dropWhile (· == ' ')) else none
  | [] => none

/-- Is the year one with a leap day? -/
def isLeap (year : Nat) : Bool := year % 4 == 0 && (year % 100 != 0 || year % 400 == 0)

/-- The number of days of a month. -/
def daysIn (year month : Nat) : Nat :=
  if month = 2 then (if isLeap year then 29 else 28)
  else if month = 4 || month = 6 || month = 9 || month = 11 then 30
  else 31

/-- Reads a date. Whether the month has that day is checked at the end. -/
def date? (s : Bytes) : Option (Timestamp × Bytes) := do
  if (s.takeWhile isDigit).length != 4 then none
  let year ← readDecimal? (s.take 4)
  let s ← byte? 0x2d (s.drop 4)
  let (month, s) ← shortNumber? s
  if month = 0 || month > 12 then none
  let s ← byte? 0x2d s
  let (day, s) ← shortNumber? s
  return ({ year, month, day }, s)

/-- Reads the fraction of a second, if there is one; digits beyond the ninth are ignored. -/
def fraction (s : Bytes) : Nat × Bytes :=
  match s with
  | p :: d :: _ =>
    if (p = '.' || p = ',') && isDigit d then
      let ds := (s.drop 1).takeWhile isDigit
      let kept := ds.take 9
      ((readDecimal? kept).getD 0 * Nat.pow 10 (9 - kept.length), (s.drop 1).dropWhile isDigit)
    else (0, s)
  | _ => (0, s)

/-- Reads a time of day. -/
def clock? (t : Timestamp) (s : Bytes) : Option (Timestamp × Bytes) := do
  let (hour, s) ← shortNumber? s
  if hour > 23 then none
  let s ← byte? 0x3a s
  let (minute, s) ← shortNumber? s
  if minute > 59 then none
  let s ← byte? 0x3a s
  let (second, s) ← shortNumber? s
  if second > 59 then none
  let (nanosecond, s) := fraction s
  return ({ t with hour, minute, second, nanosecond }, s)

/-- Reads a zone: `Z`, or a sign, hours and minutes. -/
def zone? (s : Bytes) : Option (Option Int × Bytes) :=
  match s with
  | [] => none
  | b :: rest =>
    if b = 'Z' then some (none, rest)
    else if b = '+' || b = '-' then do
      let (hours, s) ← twoDigits? rest
      let s ← byte? 0x3a s
      let (minutes, s) ← twoDigits? s
      if hours > 24 || minutes > 60 then none
      let offset : Int := (hours * 60 + minutes : Nat)
      return (some (if b = '-' then -offset else offset), s)
    else none

/-- Reads a date and time with a zone; `mark` stands between date and time. -/
def zoned? (mark : UInt8) (s : Bytes) : Option (Timestamp × Bytes) := do
  let (t, s) ← date? s
  let s ← byte? mark s
  let (t, s) ← clock? t s
  let (zone, s) ← zone? s
  return ({ t with zone }, s)

/-- Reads a date and time without a zone. -/
def zoneless? (s : Bytes) : Option (Timestamp × Bytes) := do
  let (t, s) ← date? s
  let s ← spaces? s
  clock? t s

/-- A timestamp that takes up the whole text and names an existing day. -/
def whole? (r : Option (Timestamp × Bytes)) : Option Timestamp :=
  match r with
  | some (t, []) => if 1 ≤ t.day && t.day ≤ daysIn t.year t.month then some t else none
  | _ => none

/-- Reads a timestamp in any of its forms. -/
def parse? (s : Bytes) : Option Timestamp :=
  whole? (zoned? 0x54 s) <|> whole? (zoned? 0x74 s) <|> whole? (zoneless? s) <|> whole? (date? s)

/-! ## Writing -/

/-- A number with at least two digits. -/
def two (n : Nat) : Bytes := padLeft 2 0x30 (decimal n)

/-- The fraction of a second with its point, empty when it is zero. -/
def fractionText (n : Nat) : Bytes :=
  if n = 0 then []
  else (0x2e : UInt8) :: Bytes.dropRightWhile (· == '0') (padLeft 9 0x30 (decimal n))

/-- The zone. -/
def zoneText (offset : Int) : Bytes :=
  if offset = 0 then "Z"
  else
    (if offset < 0 then utf8 "-" else utf8 "+") ++ two (offset.natAbs / 60) ++ utf8 ":"
      ++ two (offset.natAbs % 60)

/-- The minutes from universal time. -/
def offset (t : Timestamp) : Int := t.zone.getD 0

/-- The full text. A zone of a day or more has none. -/
def text? (t : Timestamp) : Option Bytes :=
  if t.offset.natAbs / 60 ≥ 24 then none
  else some (padLeft 4 0x30 (decimal t.year) ++ utf8 "-" ++ two t.month ++ utf8 "-" ++ two t.day
    ++ utf8 "T" ++ two t.hour ++ utf8 ":" ++ two t.minute ++ utf8 ":" ++ two t.second
    ++ fractionText t.nanosecond ++ zoneText t.offset)

/-! ## Equality of keys -/

/-- A zone that all timestamps written with it share: whole hours, from 12 behind universal time to 14
ahead of it. -/
def isSharedZone (offset : Int) : Bool :=
  offset % 60 == 0 && -12 * 60 ≤ offset && offset ≤ 14 * 60

/-- Are two timestamps the same key? They are if date, time and zone agree, except that a zone which is
not shared differs from every other one. -/
def sameKey (a b : Timestamp) : Bool := a == b && a.zone.all isSharedZone

end Timestamp

end Golden.Yaml
