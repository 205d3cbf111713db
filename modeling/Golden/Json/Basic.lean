import Golden.Text.Bytes

/-!
# JSON values

A parsed document. Numbers keep the text they were written with, and objects keep their members in
order, repeated keys included: what a repetition means is up to the reader of the object.
-/

namespace Golden

/-- A JSON value. -/
inductive Json where
  | null
  | bool (b : Bool)
  | number (literal : Bytes)
  | string (s : Bytes)
  | array (items : List Json)
  | object (members : List (Bytes × Json))
deriving Repr

namespace Json

/-- Deepest nesting of arrays and objects in a text, read or written. -/
def maxDepth : Nat := 10000

/-- The value of the last member with a key. -/
def lastMember? (key : Bytes) (members : List (Bytes × Json)) : Option Json :=
  (members.reverse.find? (·.1 = key)).map (·.2)

/-- The keys of the members, each once, in ascending bytewise order. -/
def keySet (members : List (Bytes × Json)) : List Bytes :=
  Bytes.sort (members.map (·.1)).eraseDups

/-! ## Equality -/

mutual

/-- Are two values the same? -/
def same : Json → Json → Bool
  | .null, .null => true
  | .bool b, .bool c => b == c
  | .number literal, .number literal' => literal == literal'
  | .string s, .string s' => s == s'
  | .array items, .array items' => sameItems items items'
  | .object members, .object members' => sameMembers members members'
  | _, _ => false

/-- Are they the same one by one? -/
def sameItems : List Json → List Json → Bool
  | [], [] => true
  | v :: items, w :: items' => same v w && sameItems items items'
  | _, _ => false

/-- Are they the same one by one, in the same order? -/
def sameMembers : List (Bytes × Json) → List (Bytes × Json) → Bool
  | [], [] => true
  | (key, v) :: members, (key', w) :: members' => key == key' && same v w && sameMembers members members'
  | _, _ => false

end

mutual

theorem same_iff : ∀ v w : Json, same v w = true ↔ v = w
  | .null, w => by cases w <;> simp [same]
  | .bool _, w => by cases w <;> simp [same]
  | .number _, w => by cases w <;> simp [same]
  | .string _, w => by cases w <;> simp [same]
  | .array items, w => by cases w <;> simp [same, sameItems_iff items]
  | .object members, w => by cases w <;> simp [same, sameMembers_iff members]

theorem sameItems_iff : ∀ items items' : List Json, sameItems items items' = true ↔ items = items'
  | [], items' => by cases items' <;> simp [sameItems]
  | v :: items, items' => by cases items' <;> simp [sameItems, same_iff v, sameItems_iff items]

theorem sameMembers_iff :
    ∀ members members' : List (Bytes × Json), sameMembers members members' = true ↔ members = members'
  | [], members' => by cases members' <;> simp [sameMembers]
  | (_, v) :: members, members' => by
    cases members' <;> simp [sameMembers, same_iff v, sameMembers_iff members, Prod.ext_iff]

end

instance : DecidableEq Json := fun v w => decidable_of_iff _ (same_iff v w)

end Json

end Golden
