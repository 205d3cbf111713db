import Golden.Config.Basic
import Golden.Json.Parser
import Golden.Text.Number
import Golden.Text.Quote

/-!
# Reading a configuration document

A document sets the fields whose keys its members have. A key matches a field exactly or, failing
that, up to case. Of repeated settings the last one counts, `null` sets nothing, and any other value
of the wrong type spoils the whole document.

Keys that match no field exactly are reported as ignored (`unknownFieldWarnings`).
-/

namespace Golden

/-! ## Keys -/

/-- The upper-case form by which keys are compared: ASCII letters, and the two other characters whose
upper-case form is an ASCII letter. -/
def foldRune (r : Rune) : Bytes :=
  match r with
  | .stray _ => utf8 "\ufffd"
  | .char c =>
    if c.toNat < 0x80 then [upperAscii c.toUInt8]
    else if c.toNat = 0x17f then "S"
    else if c.toNat = 0x212a then "K"
    else String.utf8EncodeChar c

/-- A key up to case. -/
def foldKey (k : Bytes) : Bytes := (runes k).flatMap foldRune

/-- The field that a key sets. -/
def Field.matching? (k : Bytes) : Option Field :=
  match Field.ofKey? k with
  | some f => some f
  | none => Field.all.find? fun f => foldKey f.key = foldKey k

/-! ## Values -/

/-- A configuration in the making. For each list it remembers what earlier settings left in every
place, because `null` in a repeated list keeps what is there. -/
structure ConfigDraft where
  config : Config := {}
  runnerPlaces : List Bytes := []
  extraArgsPlaces : List Bytes := []
deriving DecidableEq, Repr

/-- The strings of a list; `null` keeps the string left in its place, or is empty. -/
def decodeItems (places : List Bytes) : List Json → Option (List Bytes)
  | [] => some []
  | .string s :: vs => (decodeItems (places.drop 1) vs).map (s :: ·)
  | .null :: vs => (decodeItems (places.drop 1) vs).map (places.headD [] :: ·)
  | _ :: _ => none

/-- A list of strings and the places it leaves. -/
def decodeList (places : List Bytes) : Json → Option (List Bytes × List Bytes)
  | .null => some ([], [])
  | .array [] => some ([], [])
  | .array items => (decodeItems places items).map fun ss => (ss, ss ++ places.drop ss.length)
  | _ => none

/-- A string, or what was there before in place of `null`. -/
def decodeText (old : Bytes) : Json → Option Bytes
  | .string s => some s
  | .null => some old
  | _ => none

/-- A whole number of 64 bits, written as such. -/
def decodeInt (old : Int) : Json → Option Int
  | .number literal => readInt64? literal
  | .null => some old
  | _ => none

namespace ConfigDraft

/-- Sets one field. -/
def set (d : ConfigDraft) (f : Field) (v : Json) : Option ConfigDraft :=
  let c := d.config
  match f with
  | .directory => (decodeText c.directory v).map fun s => { d with config := { c with directory := s } }
  | .runner => (decodeList d.runnerPlaces v).map fun (ss, places) =>
      { d with config := { c with runner := ss }, runnerPlaces := places }
  | .extension => (decodeText c.extension v).map fun s => { d with config := { c with extension := s } }
  | .inputMode => (decodeText c.inputMode v).map fun s => { d with config := { c with inputMode := s } }
  | .inlineInputFlag =>
    (decodeText c.inlineInputFlag v).map fun s => { d with config := { c with inlineInputFlag := s } }
  | .fileInputFlag =>
    (decodeText c.fileInputFlag v).map fun s => { d with config := { c with fileInputFlag := s } }
  | .extraArgs => (decodeList d.extraArgsPlaces v).map fun (ss, places) =>
      { d with config := { c with extraArgs := ss }, extraArgsPlaces := places }
  | .mode => (decodeText c.mode v).map fun s => { d with config := { c with mode := s } }
  | .jobs => (decodeInt c.jobs v).map fun i => { d with config := { c with jobs := i } }
  | .timeout => (decodeText c.timeout v).map fun s => { d with config := { c with timeout := s } }
  | .incomplete => (decodeText c.incomplete v).map fun s => { d with config := { c with incomplete := s } }

/-- Sets the fields that members have keys for, in order. -/
def setAll (d : ConfigDraft) : List (Bytes × Json) → Option ConfigDraft
  | [] => some d
  | (key, v) :: ms =>
    match Field.matching? key with
    | none => d.setAll ms
    | some f =>
      match d.set f v with
      | none => none
      | some d' => d'.setAll ms

end ConfigDraft

/-- The configuration that a document gives, without defaults. -/
def Config.ofJson? : Json → Option Config
  | .null => some {}
  | .object members => (ConfigDraft.setAll {} members).map ConfigDraft.config
  | _ => none

/-- The configuration that a text gives, without defaults. -/
def Config.decode? (data : Bytes) : Option Config :=
  match Json.parse? data with
  | none => none
  | some doc => Config.ofJson? doc

/-! ## Ignored keys -/

/-- The key that is passed over without a warning. -/
def ignoredKey : Bytes := "$schema"

/-- The warning for a key that no field has. -/
def unknownFieldWarning (key : Bytes) : Bytes := "unknown field " ++ quote key ++ " in config (ignored)"

/-- The warning when the text is no object after all. -/
def reparseWarning : Bytes := "internal: failed to re-parse config for unknown field detection"

/-- Is the key neither a field's nor passed over? -/
def isUnknownKey (key : Bytes) : Bool := key != ignoredKey && (Field.ofKey? key).isNone

/-- One warning for each unknown key of a document, in ascending order. -/
def unknownFieldWarnings (data : Bytes) : List Bytes :=
  match Json.parse? data with
  | some .null => []
  | some (.object members) =>
    Bytes.sort (((Json.keySet members).filter isUnknownKey).map unknownFieldWarning)
  | _ => [reparseWarning]

end Golden
