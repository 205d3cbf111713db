import Golden.Json.Printer
import Golden.Text.Base64
import Golden.Yaml.Node

/-!
# YAML documents as values

A tree of nodes stands for a value: aliases are replaced by the nodes they name, scalars by what they
stand for, and merge keys by the entries of the mappings they point to. An entry that a mapping has
itself wins over a merged one, and of merged ones the first wins.

An alias may stand inside the node it names. Replacing it is possible as long as the same alias is not
met again on the way (`Document.expansion`); that happens where a merged entry loses to another one.

Aliases can make a small document stand for a huge value, so the share of the work that is done on
behalf of aliases is limited (`Effort.isExcessive`).

A value has a JSON form unless it is nested too deep or holds a number that is not finite, a timestamp
without a text, or a key that is neither a string nor an integer nor a timestamp.
-/

namespace Golden.Yaml

/-- The value of a document. -/
inductive Value where
  | scalar (s : Scalar)
  | sequence (items : List Value)
  /-- The entries of a mapping, the latest first; `textual` says whether its keys have to be strings. -/
  | mapping (textual : Bool) (entries : List (Scalar × Value))
deriving Repr

/-! ## Effort -/

/-- How many nodes have been visited, and how many of these on behalf of an alias. -/
structure Effort where
  visited : Nat := 0
  aliased : Nat := 0
deriving DecidableEq, Repr

/-- Is too much of the work done on behalf of aliases? Small documents may do as they like, then a
share of 99 in 100 is allowed up to 400 000 visits, falling to 10 in 100 at 4 000 000. -/
def Effort.isExcessive (e : Effort) : Bool :=
  e.aliased > 100 && e.visited > 1000 &&
    if e.visited ≤ 400000 then e.aliased * 100 > e.visited * 99
    else if e.visited ≥ 4000000 then e.aliased * 10 > e.visited
    else e.aliased * 100 * 3600000 > e.visited * (99 * 3600000 - 89 * (e.visited - 400000))

/-- Steps that read values. -/
abbrev Reading := StateT Effort Option

/-- Counts a visit. -/
def visit (inAlias : Bool) : Reading Unit := do
  let e ← get
  let e : Effort := ⟨e.visited + 1, if inAlias then e.aliased + 1 else e.aliased⟩
  if e.isExcessive then failure
  set e

/-! ## Scalars and keys -/

/-- The value of a scalar node. -/
def scalarValue? (tag text : Bytes) : Option Scalar :=
  if tag = stringTag then some (.string text)
  else if tag = binaryTag then (Base64.decode? text).map .string
  else resolve? tag text

/-- The text of a scalar node in the place of a key that has to be a string; `null` has none. -/
def keyText? (tag text : Bytes) : Option (Option Scalar) :=
  match scalarValue? tag text with
  | none => none
  | some .null => some none
  | some v => some (some (if tag = binaryTag then v else .string text))

/-- The scalar that a scalar node stands for as a key. Where keys have to be strings, a null key stands
for nothing and its entry is dropped. -/
def scalarKey (textual inAlias : Bool) (tag text : Bytes) : Reading (Option Scalar) := do
  visit inAlias
  if textual then StateT.lift (keyText? tag text) else some <$> StateT.lift (scalarValue? tag text)

/-- What two keys of a mapping must not have in common: how they are written. -/
inductive KeyShape where
  | scalar (text : Bytes)
  | sequence
  | mapping
  | alias (name : Bytes)
deriving DecidableEq, Repr

/-- How a key is written. -/
def Node.keyShape : Node → KeyShape
  | .scalar _ text => .scalar text
  | .sequence _ _ => .sequence
  | .mapping _ _ => .mapping
  | .alias a => .alias a.name

/-- Are all keys written differently? -/
def distinctKeys (pairs : List (Node × Node)) : Bool :=
  decide (pairs.map fun p => p.1.keyShape).Nodup

/-- A merge key. -/
def Node.isMergeKey : Node → Bool
  | .scalar tag text => text = utf8 "<<" && tag = mergeTag
  | _ => false

/-- May the keys of a mapping stand for strings only? -/
def isTextual (pairs : List (Node × Node)) : Bool :=
  pairs.all fun p => p.1.tag = stringTag || p.1.tag = mergeTag

/-! ## Entries and aliases -/

/-- The entries read so far, latest first, and while merging the keys that are taken. -/
structure Entries where
  read : List (Scalar × Value) := []
  taken : Option (List Scalar) := none

/-- Is the key taken by an entry that wins over a merged one? -/
def Entries.isTaken (es : Entries) (k : Scalar) : Bool :=
  match es.taken with
  | none => false
  | some ks => ks.any k.sameKey

/-- Adds an entry; it replaces an earlier one with the same key. -/
def Entries.add (es : Entries) (k : Scalar) (v : Value) : Entries :=
  { read := (k, v) :: es.read.filter fun e => !k.sameKey e.1
    taken := es.taken.map (k :: ·) }

/-- What aliases are replaced by: as a key, as a value, and as the entries that a merge key adds. The
flag says whether keys have to be strings. -/
structure Expansion where
  key : Bool → Alias → Reading (Option Scalar)
  value : Alias → Reading Value
  merge : Bool → Entries → Alias → Reading Entries

/-- The scalar that a key stands for. Collections cannot be keys. -/
def key (ex : Expansion) (textual inAlias : Bool) : Node → Reading (Option Scalar)
  | .scalar tag text => scalarKey textual inAlias tag text
  | .alias a => do
    visit inAlias
    ex.key textual a
  | _ => failure

/-- The scalars that the keys of a mapping stand for. -/
def keys (ex : Expansion) (inAlias : Bool) : List (Node × Node) → Reading (List Scalar)
  | [] => return []
  | (k, _) :: rest => do
    match ← key ex false inAlias k with
    | some s => return s :: (← keys ex inAlias rest)
    | none => keys ex inAlias rest

/-! ## Values -/

mutual

/-- The value of a node. -/
def value (ex : Expansion) (inAlias : Bool) : Node → Reading Value
  | .scalar tag text => do
    visit inAlias
    .scalar <$> StateT.lift (scalarValue? tag text)
  | .sequence _ items => do
    visit inAlias
    .sequence <$> values ex inAlias items
  | .mapping _ pairs => do
    visit inAlias
    if !distinctKeys pairs then failure
    let textual := isTextual pairs
    let own ← entries ex textual inAlias {} pairs
    let all ← do
      if pairs.any fun p => p.1.isMergeKey then
        merged ex textual inAlias { own with taken := some (← keys ex inAlias pairs) } pairs
      else pure own
    return .mapping textual all.read
  | .alias a => do
    visit inAlias
    ex.value a

/-- The values of nodes. -/
def values (ex : Expansion) (inAlias : Bool) : List Node → Reading (List Value)
  | [] => return []
  | n :: ns => do
    let v ← value ex inAlias n
    return v :: (← values ex inAlias ns)

/-- Reads the entries of a mapping whose keys are not taken, merge keys apart. -/
def entries (ex : Expansion) (textual inAlias : Bool) (es : Entries) :
    List (Node × Node) → Reading Entries
  | [] => return es
  | (k, n) :: rest => do
    if k.isMergeKey then entries ex textual inAlias es rest
    else
      match ← key ex textual inAlias k with
      | none => entries ex textual inAlias es rest
      | some s =>
        if es.isTaken s then entries ex textual inAlias es rest
        else
          let v ← value ex inAlias n
          entries ex textual inAlias (es.add s v) rest

/-- Reads the entries that the merge keys of a mapping point to. -/
def merged (ex : Expansion) (textual inAlias : Bool) (es : Entries) :
    List (Node × Node) → Reading Entries
  | [] => return es
  | (k, n) :: rest => do
    let es ← if k.isMergeKey then mergeFrom ex true textual inAlias es n else pure es
    merged ex textual inAlias es rest

/-- Reads the entries of a mapping, of an alias of one or, where lists are allowed, of a sequence of
these. -/
def mergeFrom (ex : Expansion) (lists textual inAlias : Bool) (es : Entries) : Node → Reading Entries
  | .mapping _ pairs => do
    visit inAlias
    if !distinctKeys pairs then failure
    let es ← entries ex textual inAlias es pairs
    merged ex textual inAlias es pairs
  | .alias a => do
    visit inAlias
    ex.merge textual es a
  | .sequence _ items => if lists then mergeAll ex textual inAlias es items else failure
  | .scalar _ _ => failure

/-- Reads the entries of several mappings. -/
def mergeAll (ex : Expansion) (textual inAlias : Bool) (es : Entries) : List Node → Reading Entries
  | [] => return es
  | n :: ns => do
    let es ← mergeFrom ex false textual inAlias es n
    mergeAll ex textual inAlias es ns

end

/-- What the aliases of a document are replaced by, while those whose numbers are in `opened` are being
replaced: meeting one of these again is a fault, so no chain of aliases is longer than their number
`depth`. -/
def Document.expansion (d : Document) : (depth : Nat) → (opened : List Nat) → Expansion
  | 0, _ => { key := fun _ _ => failure, value := fun _ => failure, merge := fun _ _ _ => failure }
  | depth + 1, opened =>
    { key := fun textual a =>
        match d.target? a with
        | some (.scalar tag text) => scalarKey textual true tag text
        | _ => failure
      value := fun a =>
        match d.target? a with
        | some n =>
          if opened.contains a.number then failure
          else value (d.expansion depth (a.number :: opened)) true n
        | none => failure
      merge := fun textual es a =>
        match d.target? a with
        | some (.mapping tag pairs) =>
          if opened.contains a.number then failure
          else
            mergeFrom (d.expansion depth (a.number :: opened)) false textual true es (.mapping tag pairs)
        | _ => failure }

/-- The value of a document; the document itself is visited too. -/
def Value.ofDocument? (d : Document) : Option Value :=
  let reading : Reading Value := do
    visit false
    value (d.expansion d.aliasCount []) false d.root
  (reading.run {}).map (·.1)

/-! ## The JSON form -/

/-- The JSON form of a scalar. -/
def Scalar.toJson? : Scalar → Option Json
  | .null => some .null
  | .bool b => some (.bool b)
  | .int i => some (.number (decimalInt i))
  | .float negative x =>
    some (.number ((if negative then [(0x2d : UInt8)] else []) ++ Json.floatText x))
  | .infinity _ => none
  | .notANumber => none
  | .timestamp t => t.text?.map .string
  | .string s => some (.string s)

/-- The name of the member that a key becomes. Where other keys than strings are possible, members are
named by well-formed texts. -/
def Scalar.memberName? (textual : Bool) : Scalar → Option Bytes
  | .string s => some (if textual then s else (runes s).flatMap fun r => String.utf8EncodeChar r.shown)
  | .int i => some (decimalInt i)
  | .timestamp t => t.text?
  | _ => none

/-- Orders members by name. -/
def sortMembers (members : List (Bytes × Json)) : List (Bytes × Json) :=
  members.mergeSort fun a b => Bytes.le a.1 b.1

mutual

/-- The JSON form of a value that is nested at most `room` deep. -/
def Value.toJson? (room : Nat) : Value → Option Json
  | .scalar s => s.toJson?
  | .sequence items => if room = 0 then none else (itemsToJson? (room - 1) items).map .array
  | .mapping textual entries =>
    if room = 0 then none
    else (entriesToJson? (room - 1) textual entries).map fun ms => .object (sortMembers ms)

/-- The JSON forms of items. -/
def itemsToJson? (room : Nat) : List Value → Option (List Json)
  | [] => some []
  | v :: vs => do return (← v.toJson? room) :: (← itemsToJson? room vs)

/-- The JSON forms of entries. -/
def entriesToJson? (room : Nat) (textual : Bool) : List (Scalar × Value) → Option (List (Bytes × Json))
  | [] => some []
  | (k, v) :: es => do
    let name ← k.memberName? textual
    return (name, ← v.toJson? room) :: (← entriesToJson? room textual es)

end

/-! ## Documents -/

/-- Why a text has no JSON form. -/
inductive DocumentFault where
  /-- It is no document, or has none. -/
  | malformed
  /-- Its value has no JSON form. -/
  | notJson
deriving DecidableEq, Repr

/-- The value of the first document of a text. -/
def Value.parse? (data : Bytes) : Option Value :=
  match Document.ofTokens? (tokens data) with
  | some (some d) => Value.ofDocument? d
  | _ => none

/-- The JSON form of the first document of a text. -/
def toJson (data : Bytes) : Except DocumentFault Json :=
  match Value.parse? data with
  | none => .error .malformed
  | some v =>
    match v.toJson? Json.maxDepth with
    | none => .error .notJson
    | some j => .ok j

end Golden.Yaml
