import Golden.Config.Decode
import Golden.Config.Schema
import Golden.Config.Validate
import Golden.Files.Tree
import Golden.Yaml.Value

/-!
# Configuration files

A configuration file is JSON or, by its extension, YAML; the latter is turned into JSON first, so that
both are read in the same way. Reading for use (`loadAndValidate`) checks the document against the
schema, decodes it, fills in the defaults and checks the result; unknown keys only lead to warnings.
-/

namespace Golden

namespace Config

/-- The names under which a configuration file is looked for, in this order. -/
def fileNames : List Bytes := ["asmcheck.json", "asmcheck.yaml", "asmcheck.yml"]

/-- The first configuration file of a directory. -/
def find? (t : Tree) (dir : Bytes) : Option Bytes :=
  (fileNames.map (Path.join dir)).find? t.isRegular

/-! ## Reading -/

/-- Does the path have the extension of a YAML file? -/
def isYamlPath (path : Bytes) : Bool :=
  let extension := (Path.extension path).map lowerAscii
  extension = utf8 ".yaml" || extension = utf8 ".yml"

/-- The fault of a text that is no document of its format. Parsers say where and why; one fixed text stands
for all that they say. -/
def parseFault : Fault := .within "failed to parse config file" (.plain "malformed document")

/-- The fault of a document without a JSON form, with one fixed text for every reason as well. -/
def convertFault : Fault :=
  .within "failed to convert YAML config" (.plain "the document has no JSON form")

/-- The text of an empty configuration. -/
def emptyDocument : Bytes := "\x7b\x7d"

/-- The JSON text of a YAML text. Blank texts and null documents give an empty configuration. -/
def yamlToJson (data : Bytes) : Except Fault Bytes :=
  match Yaml.toJson data with
  | .ok .null => .ok emptyDocument
  | .ok doc => .ok doc.print
  | .error .malformed => if isBlank data then .ok emptyDocument else .error parseFault
  | .error .notJson => .error convertFault

/-- The content of a configuration file as JSON text. -/
def readAsJson (t : Tree) (path : Bytes) : Except Fault Bytes :=
  match t.read path with
  | .error e => .error (.within "failed to read config file" e.fault)
  | .ok data => if isYamlPath path then yamlToJson data else .ok data

/-! ## Loading -/

/-- Decodes a JSON text, without defaults. -/
def decode (data : Bytes) : Except Fault Config :=
  match decode? data with
  | some c => .ok c
  | none => .error parseFault

/-- Decodes a JSON text, without defaults, and warns of unknown keys. -/
def decodeWithWarnings (data : Bytes) : Except Fault (Config × List Bytes) :=
  match decode data with
  | .ok c => .ok (c, unknownFieldWarnings data)
  | .error e => .error e

/-- Reads a configuration file, without defaults. -/
def load (t : Tree) (path : Bytes) : Except Fault Config :=
  match readAsJson t path with
  | .ok data => decode data
  | .error e => .error e

/-- What loading a configuration file leads to: a configuration or a fault, and warnings with
either. -/
structure Loaded where
  result : Except Fault Config
  warnings : List Bytes := []

/-- Fills in the defaults of a decoded configuration and checks it. -/
def complete (path : Bytes) (c : Config) : Except Fault Config :=
  match c.withDefaults.validate with
  | .ok () => .ok c.withDefaults
  | .error issue => .error (.within path issue.fault)

/-- Reads a configuration file, checks it against the schema, fills in the defaults, and checks the
result. -/
def loadAndValidate (t : Tree) (path : Bytes) : Loaded :=
  match readAsJson t path with
  | .error e => { result := .error e }
  | .ok data =>
    match Schema.validate data with
    | .error e => { result := .error (.within path e) }
    | .ok () =>
      match decodeWithWarnings data with
      | .error e => { result := .error e }
      | .ok (c, warnings) => { result := complete path c, warnings := warnings }

end Config

end Golden
