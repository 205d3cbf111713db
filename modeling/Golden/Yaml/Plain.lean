import Golden.Number.Binary64
import Golden.Yaml.Timestamp

/-!
# What a scalar stands for

Plain scalars are recognized by their text: nulls, booleans, integers in four notations, floating-point
numbers and timestamps; everything else is a string. A tag asks for one of these, and the text has to
agree with it, except that an integer can also serve as a floating-point number. A tag outside the
known ones leaves the text a string.
-/

namespace Golden.Yaml

/-! ## Tags -/

/-- The name space of the standard tags. -/
def tagSpace : Bytes := "tag:yaml.org,2002:"

def nullTag : Bytes := "!!null"
def boolTag : Bytes := "!!bool"
def stringTag : Bytes := "!!str"
def intTag : Bytes := "!!int"
def floatTag : Bytes := "!!float"
def timestampTag : Bytes := "!!timestamp"
def sequenceTag : Bytes := "!!seq"
def mappingTag : Bytes := "!!map"
def binaryTag : Bytes := "!!binary"
def mergeTag : Bytes := "!!merge"

/-- The short form of a tag of the standard name space. -/
def shortTag (tag : Bytes) : Bytes :=
  if Bytes.startsWith tagSpace tag then "!!" ++ tag.drop tagSpace.length else tag

/-! ## Values of scalars -/

/-- The value of a scalar. -/
inductive Scalar where
  | null
  | bool (b : Bool)
  | int (i : Int)
  | float (negative : Bool) (x : Binary64)
  | infinity (negative : Bool)
  | notANumber
  | timestamp (t : Timestamp)
  | string (s : Bytes)
deriving DecidableEq, Repr

/-- The tag of a value. -/
def Scalar.tag : Scalar → Bytes
  | .null => nullTag
  | .bool _ => boolTag
  | .int _ => intTag
  | .float _ _ => floatTag
  | .infinity _ => floatTag
  | .notANumber => floatTag
  | .timestamp _ => timestampTag
  | .string _ => stringTag

/-- Are two scalars the same key? Zeros are equal whatever their sign, and what is not a number is not
even equal to itself. -/
def Scalar.sameKey : Scalar → Scalar → Bool
  | .float s x, .float t y => (x.mant == 0 && y.mant == 0) || (s == t && x == y)
  | .notANumber, _ => false
  | .timestamp a, .timestamp b => a.sameKey b
  | a, b => a == b

/-- The words with a value of their own. -/
def words : List (Bytes × Scalar) :=
  [("true", .bool true), ("True", .bool true), ("TRUE", .bool true),
    ("false", .bool false), ("False", .bool false), ("FALSE", .bool false),
    ("", .null), ("~", .null), ("null", .null), ("Null", .null), ("NULL", .null),
    (".nan", .notANumber), (".NaN", .notANumber), (".NAN", .notANumber),
    (".inf", .infinity false), (".Inf", .infinity false), (".INF", .infinity false),
    ("+.inf", .infinity false), ("+.Inf", .infinity false), ("+.INF", .infinity false),
    ("-.inf", .infinity true), ("-.Inf", .infinity true), ("-.INF", .infinity true)]

/-! ## Integers -/

/-- The value of digits in a base. -/
def digitsIn? (base : Nat) : Bytes → Nat → Option Nat
  | [], n => some n
  | b :: s, n =>
    match hexValue b with
    | some d => if d < base then digitsIn? base s (n * base + d) else none
    | none => none

/-- A natural number in a base, with at least one digit. -/
def natural? (base : Nat) (s : Bytes) : Option Nat := if s.isEmpty then none else digitsIn? base s 0

/-- A natural number whose notation gives the base: `0x`, `0o`, `0b`, a leading zero for octal. -/
def prefixedNatural? (s : Bytes) : Option Nat :=
  match s with
  | [] => none
  | z :: rest =>
    if z = '0' then
      match rest with
      | [] => some 0
      | m :: ds =>
        if ds.isEmpty then natural? 8 rest
        else
          let m := lowerAscii m
          if m = 'b' then natural? 2 ds
          else if m = 'o' then natural? 8 ds
          else if m = 'x' then natural? 16 ds
          else natural? 8 rest
    else natural? 10 s

/-- A sign, if there is one, and the rest. -/
def takeSign (s : Bytes) : Option Bool × Bytes :=
  match s with
  | b :: rest => if b = '-' then (some true, rest) else if b = '+' then (some false, rest) else (none, s)
  | [] => (none, s)

/-- An integer of 64 bits, signed or not. -/
def integer64? (natural : Bytes → Option Nat) (s : Bytes) : Option Int :=
  let (sign, body) := takeSign s
  match natural body with
  | none => none
  | some n =>
    match sign with
    | some true => if n ≤ Nat.pow 2 63 then some (-(n : Int)) else none
    | some false => if n < Nat.pow 2 63 then some n else none
    | none => if n < Nat.pow 2 64 then some n else none

/-- A signed integer of 64 bits behind a minus sign that stands before the mark of the base. -/
def negated? (base : Nat) (s : Bytes) : Option Int :=
  match natural? base s with
  | some n => if n ≤ Nat.pow 2 63 then some (-(n : Int)) else none
  | none => none

/-- An integer in binary or octal notation whose sign may also stand behind the mark of the base. -/
def markedInteger? (s : Bytes) : Option Int :=
  if Bytes.startsWith "0b" s then integer64? (natural? 2) (s.drop 2)
  else if Bytes.startsWith "-0b" s then negated? 2 (s.drop 3)
  else if Bytes.startsWith "0o" s then integer64? (natural? 8) (s.drop 2)
  else if Bytes.startsWith "-0o" s then negated? 8 (s.drop 3)
  else none

/-! ## Floating-point numbers -/

/-- The digits and the power of ten of a number without sign: digits with at most one point, at
least one digit next to the point, and an optional exponent. -/
def decimalParts? (s : Bytes) : Option (Bytes × Int) :=
  let whole := s.takeWhile isDigit
  let s₁ := s.dropWhile isDigit
  let (fraction, s₂) : Bytes × Bytes := match s₁ with
    | b :: t => if b = '.' then (t.takeWhile isDigit, t.dropWhile isDigit) else ([], s₁)
    | [] => ([], s₁)
  if whole.isEmpty && fraction.isEmpty then none
  else
    let mantissa := whole ++ fraction
    match s₂ with
    | [] => some (mantissa, -(fraction.length : Int))
    | e :: t =>
      if e = 'e' || e = 'E' then
        let (sign, ds) := takeSign t
        match readDecimal? ds with
        | some n =>
          some (mantissa, (if sign = some true then -(n : Int) else n) - fraction.length)
        | none => none
      else none

/-- The floating-point number nearest to digits times a power of ten, if it is finite. Powers far
beyond the range need not be multiplied out. -/
def nearestFloat? (mantissa : Bytes) (power : Int) : Option Binary64 :=
  let ds := mantissa.dropWhile (· == 0x30)
  let n := (readDecimal? ds).getD 0
  let point : Int := power + ds.length
  if n = 0 || point < -330 then some ⟨0, 0⟩
  else if point > 310 then none
  else if power < 0 then Binary64.ofRatio n (Nat.pow 10 power.natAbs)
  else Binary64.ofRatio (n * Nat.pow 10 power.natAbs) 1

/-- A floating-point number with an optional sign. -/
def float? (s : Bytes) : Option Scalar :=
  let (sign, body) := takeSign s
  match decimalParts? body with
  | none => none
  | some (mantissa, power) => (nearestFloat? mantissa power).map (.float (sign = some true))

/-- Does every underscore stand between two digits? `afterDigit` says whether a digit came before. -/
def underscoresBetweenDigits (afterDigit : Bool) : Bytes → Bool
  | [] => true
  | b :: s =>
    if b = '_' then
      afterDigit && (match s with
        | d :: _ => isDigit d
        | [] => false) && underscoresBetweenDigits false s
    else underscoresBetweenDigits (isDigit b) s

/-- The text without underscores. -/
def withoutUnderscores (s : Bytes) : Bytes := s.filter (· != 0x5f)

/-! ## Recognition -/

/-- A number or timestamp; timestamps only if they are asked for. -/
def number? (timestamps : Bool) (s : Bytes) : Option Scalar :=
  let plain := withoutUnderscores s
  (if timestamps then (Timestamp.parse? s).map .timestamp else none)
    <|> (integer64? prefixedNatural? plain).map .int
    <|> float? plain
    <|> (markedInteger? plain).map .int

/-- A byte that can start a word with a value of its own. -/
def startsWord (b : UInt8) : Bool := "yYnNtTfFoO~".toList.any (fun c => b == c.toUInt8)

/-- The value that a text has when it is not a string, if it has one. -/
def recognize? (timestamps : Bool) (s : Bytes) : Option Scalar :=
  let word := (words.find? (·.1 = s)).map (·.2)
  match s with
  | [] => word
  | b :: _ =>
    if startsWord b then word
    else if b = '.' then
      word <|> (if underscoresBetweenDigits false s then float? (withoutUnderscores s) else none)
    else if isDigit b || b = '+' || b = '-' then word <|> number? timestamps s
    else none

/-- The tag that a plain scalar has by its text. -/
def plainTag (s : Bytes) : Bytes := ((recognize? true s).map Scalar.tag).getD stringTag

/-- Do tags with this name ask for a certain kind of value? -/
def isResolvable (tag : Bytes) : Bool :=
  [boolTag, intTag, floatTag, nullTag, timestampTag].contains tag

/-- An integer as a floating-point number. Integers of 64 bits without a sign are not converted. -/
def asFloat? (i : Int) : Option Scalar :=
  if i < 9223372036854775808 then (Binary64.ofNat i.natAbs).map (.float (i < 0)) else none

/-- The value of a scalar with a tag, or nothing if text and tag disagree. -/
def resolve? (tag text : Bytes) : Option Scalar :=
  if isResolvable tag then
    match recognize? (tag = timestampTag) text with
    | none => none
    | some v =>
      if v.tag = tag then some v
      else
        match v with
        | .int i => if tag = floatTag then asFloat? i else none
        | _ => none
  else some (.string text)

end Golden.Yaml
