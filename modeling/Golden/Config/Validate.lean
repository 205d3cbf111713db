import Golden.Config.Basic
import Golden.Duration
import Golden.Fault
import Golden.Text.Space

/-!
# Validation

What a configuration must satisfy before anything is run. Checks are made in a fixed order and the
first one that fails is reported.
-/

namespace Golden

/-- A setting that cannot be used. -/
inductive ConfigIssue where
  | runnerMissing
  | extensionShape (extension : Bytes)
  | extensionReserved (extension : Bytes)
  | inputMode
  | mode
  | incomplete
  | jobs
  | timeoutSyntax (timeout : Bytes)
  | timeoutNegative
deriving DecidableEq, Repr

namespace ConfigIssue

/-- The field at fault. -/
def field : ConfigIssue → Field
  | .runnerMissing => .runner
  | .extensionShape _ => .extension
  | .extensionReserved _ => .extension
  | .inputMode => .inputMode
  | .mode => .mode
  | .incomplete => .incomplete
  | .jobs => .jobs
  | .timeoutSyntax _ => .timeout
  | .timeoutNegative => .timeout

/-- What is wrong with the field. -/
def message : ConfigIssue → Bytes
  | .runnerMissing => "is required"
  | .extensionShape e => quote e ++ " must be a dot followed by a name, e.g. \".asm\""
  | .extensionReserved e => quote e ++ " is reserved for fixture input and expected output"
  | .inputMode => "must be \"inline\" or \"file\""
  | .mode => "must be \"strict\" or \"lenient\""
  | .incomplete => "must be \"skip\" or \"fail\""
  | .jobs => "must be between 0 and " ++ decimal Config.maxJobs
  | .timeoutSyntax t => quote t ++ " is not a duration (e.g. \"30s\")"
  | .timeoutNegative => "must not be negative"

/-- The issue as a fault. -/
def fault (i : ConfigIssue) : Fault := .field i.field.key i.message

end ConfigIssue

/-- A byte that a program extension must not hold after its dot. -/
def isExtensionBreaker (b : UInt8) : Bool := b == '.' || b == '/' || b == '\\'

/-- Checks a program extension: a dot and one name, and neither role's extension. -/
def checkExtension (e : Bytes) : Except ConfigIssue Unit :=
  if e.length < 2 || e.head? != some 0x2e || (e.drop 1).any isExtensionBreaker then
    .error (.extensionShape e)
  else if e = inputExtension || e = expectedExtension then .error (.extensionReserved e)
  else .ok ()

/-- Reads a time limit. -/
def parseTimeout (s : Bytes) : Except ConfigIssue Duration :=
  match Duration.parse? s with
  | none => .error (.timeoutSyntax s)
  | some d => if d.ns < 0 then .error .timeoutNegative else .ok d

namespace Config

/-- Does the configuration name an interpreter? -/
def hasRunner (c : Config) : Bool :=
  match c.runner with
  | [] => false
  | first :: _ => !isBlank first

/-- Checks a configuration whose defaults are filled in. -/
def validate (c : Config) : Except ConfigIssue Unit := do
  if !c.hasRunner then throw .runnerMissing
  checkExtension c.extension
  if c.inputMode != inlineInput && c.inputMode != fileInput then throw .inputMode
  if c.mode != strict && c.mode != lenient then throw .mode
  if c.incomplete != skipIncomplete && c.incomplete != failIncomplete then throw .incomplete
  if c.jobs < 0 || c.jobs > maxJobs then throw .jobs
  let _ ← parseTimeout c.timeout

end Config

end Golden
