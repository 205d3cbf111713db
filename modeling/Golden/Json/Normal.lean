import Golden.Json.Number
import Golden.Json.Printer

/-!
# Normal forms of JSON values

A value that has been decoded has lost how it was written: every number is the nearest floating-point
number in its shortest text, and an object has each key once, in order, with the value it had last.
-/

namespace Golden.Json

/-- The shortest text of the floating-point number nearest to a literal. A literal beyond their range
stays as it is. -/
def nearestLiteral (literal : Bytes) : Bytes :=
  let d := Decimal.ofLiteral literal
  let (num, den) := Binary64.scaledTen d.mantissa d.exponent
  match Binary64.ofRatio num den with
  | none => literal
  | some x => (if d.negative then [(0x2d : UInt8)] else []) ++ floatText x

/-- One member for each key, in ascending order of keys: the last of the list. -/
def normalMembers (members : List (Bytes × Json)) : List (Bytes × Json) :=
  (keySet members).filterMap fun k => (lastMember? k members).map fun v => (k, v)

mutual

/-- The normal form of a value. -/
def normalize : Json → Json
  | .number literal => .number (nearestLiteral literal)
  | .array items => .array (normalizeItems items)
  | .object members => .object (normalMembers (normalizeMembers members))
  | v => v

/-- The normal forms of items. -/
def normalizeItems : List Json → List Json
  | [] => []
  | v :: vs => normalize v :: normalizeItems vs

/-- Members with the normal forms of their values. -/
def normalizeMembers : List (Bytes × Json) → List (Bytes × Json)
  | [] => []
  | (k, v) :: ms => (k, normalize v) :: normalizeMembers ms

end

end Golden.Json
