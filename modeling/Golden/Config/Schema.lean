import Golden.Config.Basic
import Golden.Fault
import Golden.Json.Normal
import Golden.Text.Quote

/-!
# The shape of configuration files

A document is checked against one rule for each known key before it is read: the type of the value
and, where the rule says so, its length, its form or its range. Keys without a rule are not looked
at. All violations are reported, in an order that does not depend on the order of the keys.
-/

namespace Golden

/-- What a schema asks of a value. -/
inductive Rule where
  /-- A string of at least so many characters. -/
  | text (minLength : Nat)
  /-- A string made of a dot and a name without dots and slashes. -/
  | extension
  /-- A list of at least `minItems` strings, each of at least `minLength` characters. -/
  | texts (minItems minLength : Nat)
  /-- One of a few words. -/
  | word (choices : List Bytes)
  /-- A whole number in a closed range. -/
  | integer (low high : Int)
deriving DecidableEq, Repr

namespace Schema

/-- The key under which a file can name its schema. -/
def schemaKey : Bytes := "$schema"

/-- The rule of a field. -/
def ruleOf : Field → Rule
  | .directory => .text 1
  | .runner => .texts 1 1
  | .extension => .extension
  | .inputMode => .word [Config.inlineInput, Config.fileInput]
  | .inlineInputFlag => .text 1
  | .fileInputFlag => .text 1
  | .extraArgs => .texts 0 0
  | .mode => .word [Config.strict, Config.lenient]
  | .jobs => .integer 0 Config.maxJobs
  | .timeout => .text 0
  | .incomplete => .word [Config.skipIncomplete, Config.failIncomplete]

/-- The keys with their rules. -/
def rules : List (Bytes × Rule) :=
  (schemaKey, .text 0) :: Field.all.map fun f => (f.key, ruleOf f)

/-- The type of a value. -/
def typeName : Json → Bytes
  | .null => "null"
  | .bool _ => "boolean"
  | .number _ => "number"
  | .string _ => "string"
  | .array _ => "array"
  | .object _ => "object"

/-! ## Violations -/

/-- A violation: where, what, and what lies below it if it only sums up others. -/
inductive Violation where
  | at (pointer text : Bytes)
  | group (pointer : Bytes) (parts : List (Bytes × Bytes))
deriving DecidableEq, Repr

/-- Takes the backslash from every escaped double quote. -/
def bareQuotes : Bytes → Bytes
  | [] => []
  | [b] => [b]
  | a :: b :: s => if a = '\\' && b = '"' then b :: bareQuotes s else a :: bareQuotes (b :: s)

/-- A text in single quotes: the text in double quotes with its escaped double quotes bare, its
single quotes escaped, and the outer quotes exchanged. A final backslash loses its escape, since it
stands before the closing quote. -/
def singleQuoted (s : Bytes) : Bytes :=
  let inner := ((bareQuotes (quote s)).drop 1).dropLast
  (0x27 : UInt8) :: inner.flatMap (fun b => if b = 0x27 then [0x5c, 0x27] else [b]) ++ [0x27]

/-- The form that program extensions have, as a pattern. -/
def extensionPattern : Bytes := "^\\.[^./\\\\]+$"

/-- Has the string the form of `extensionPattern`? -/
def matchesExtension (s : Bytes) : Bool :=
  match s with
  | [] => false
  | b :: name => b == '.' && !name.isEmpty && name.all fun c => !(c == '.' || c == '/' || c == '\\')

/-- Groups the digits of a number by thousands; the digits come last first. -/
def groupDigits : Bytes → Bytes
  | a :: b :: c :: d :: rest => a :: b :: c :: (0x2c : UInt8) :: groupDigits (d :: rest)
  | ds => ds

/-- A whole number with commas between thousands. -/
def thousands (i : Int) : Bytes :=
  (if i < 0 then utf8 "-" else []) ++ (groupDigits (decimal i.natAbs).reverse).reverse

/-- The violation of a value of the wrong type. -/
def mismatch (pointer : Bytes) (v : Json) (want : Bytes) : Violation :=
  .at pointer ("got " ++ typeName v ++ ", want " ++ want)

/-- The violation of a limit. -/
def limit (pointer name : Bytes) (got want : Int) : Violation :=
  .at pointer (name ++ ": got " ++ thousands got ++ ", want " ++ thousands want)

/-- What is wrong with a value that has to be a string of some length, if anything is. -/
def checkText (pointer : Bytes) (minLength : Nat) (v : Json) : Option Violation :=
  match v with
  | .string s =>
    if runeCount s < minLength then some (limit pointer "minLength" (runeCount s) minLength) else none
  | v => some (mismatch pointer v "string")

/-- The violations of list items, with their places. -/
def checkItems (pointer : Bytes) (minLength : Nat) (items : List Json) : List Violation :=
  items.zipIdx.filterMap fun (v, i) => checkText (pointer ++ "/" ++ decimal i) minLength v

/-- One violation as it is; several as a group. -/
def bundle (pointer : Bytes) (vs : List Violation) : List Violation :=
  match vs with
  | [] => []
  | [v] => [v]
  | vs => [.group pointer (vs.flatMap fun
      | .at p t => [(p, t)]
      | .group _ parts => parts)]

/-- The violations of a value under a rule. -/
def check (pointer : Bytes) (rule : Rule) (v : Json) : List Violation :=
  match rule with
  | .text minLength => (checkText pointer minLength v).toList
  | .extension =>
    match v with
    | .string s =>
      if matchesExtension s then []
      else [.at pointer
        (singleQuoted s ++ " does not match pattern " ++ singleQuoted extensionPattern)]
    | v => [mismatch pointer v "string"]
  | .texts minItems minLength =>
    match v with
    | .array items =>
      bundle pointer
        ((if items.length < minItems then [limit pointer "minItems" items.length minItems] else [])
          ++ checkItems pointer minLength items)
    | v => [mismatch pointer v "array"]
  | .word choices =>
    let ok := match v with
      | .string s => choices.contains s
      | _ => false
    if ok then []
    else [.at pointer ("value must be one of " ++ Bytes.join ", " (choices.map singleQuoted))]
  | .integer low high =>
    match v with
    | .number literal =>
      match (Json.Decimal.ofLiteral literal).integer? with
      | none => [mismatch pointer v "integer"]
      | some i =>
        if i < low then [limit pointer "minimum" i low]
        else if i > high then [limit pointer "maximum" i high]
        else []
    | v => [mismatch pointer v "integer"]

/-- The violations of a document. A repeated key stands for its last value. -/
def violations (doc : Json) : List Violation :=
  match doc with
  | .object members =>
    rules.flatMap fun (key, rule) =>
      match Json.lastMember? key members with
      | none => []
      | some v => check ("/" ++ key) rule v
  | v => [mismatch [] v "object"]

/-! ## The report -/

/-- The line of a violation. -/
def violationLine (pointer text : Bytes) : Bytes := "- at " ++ singleQuoted pointer ++ ": " ++ text

/-- The lines of a violation as one block. -/
def violationBlock : Violation → Bytes
  | .at pointer text => violationLine pointer text
  | .group pointer parts =>
    Bytes.join "\n" (violationLine pointer "validation failed"
      :: parts.map fun (p, t) => "  " ++ violationLine p t)

/-- The blocks of a report. A group that is the only violation is reported by its parts. -/
def reportBlocks : List Violation → List Bytes
  | [.group _ parts] => parts.map fun (p, t) => violationLine p t
  | vs => vs.map violationBlock

/-- The text of a report. -/
def report (vs : List Violation) : Bytes :=
  Bytes.join "\n" ("jsonschema validation failed with 'config.schema.json#'" :: Bytes.sort (reportBlocks vs))

/-- What is said about a text that is no JSON document: one fixed text in place of what the parser has to
say. -/
def malformed : Fault := .plain "malformed document"

/-- Checks the text of a configuration file. -/
def validate (data : Bytes) : Except Fault Unit :=
  match Json.parse? data with
  | none => .error (.within "invalid JSON" malformed)
  | some doc =>
    match violations doc with
    | [] => .ok ()
    | vs => .error (.within "config validation failed" (.schema (report vs)))

/-- Checks a decoded document, by way of its text. -/
def validateValue (doc : Json) : Except Fault Unit := validate (Json.print doc.normalize)

end Schema

end Golden
