import Golden.Text.Bytes

/-!
# Fixtures

A fixture is one golden test case: a group of files that share a base name. It has a slot for the
program, one for the input and one for the expected output; an empty path is a free slot. The input
is optional, the other two are required for the fixture to run.
-/

namespace Golden

/-- Which slot of a fixture a file fills. -/
inductive Role where
  | program
  | input
  | expected
deriving DecidableEq, Repr

/-- The name of a role in messages. -/
def Role.name : Role → Bytes
  | .program => "program"
  | .input => "input"
  | .expected => "expected output"

/-- One golden test case. -/
structure Fixture where
  /-- The shared base name. -/
  id : Bytes
  programPath : Bytes := []
  inputPath : Bytes := []
  /-- The content of the input file, if it was asked for. -/
  input : Bytes := []
  expectedPath : Bytes := []
  /-- The content of the expected-output file. -/
  expected : Bytes := []
deriving DecidableEq, Repr

namespace Fixture

/-- The path in the slot of a role. -/
def path (f : Fixture) : Role → Bytes
  | .program => f.programPath
  | .input => f.inputPath
  | .expected => f.expectedPath

/-- Is there an input file? -/
def hasInput (f : Fixture) : Bool := !f.inputPath.isEmpty

/-- The required roles whose slots are free. -/
def missing (f : Fixture) : List Role :=
  [Role.program, Role.expected].filter fun r => (f.path r).isEmpty

/-- Is everything there that a run needs? -/
def isComplete (f : Fixture) : Bool := f.missing.isEmpty

/-- The program's path, or the base name when there is no program. -/
def displayName (f : Fixture) : Bytes := if f.programPath.isEmpty then f.id else f.programPath

/-- Names the missing roles; empty when none is missing. -/
def missingDescription (f : Fixture) : Bytes :=
  if f.missing.isEmpty then [] else "missing " ++ Bytes.join " and " (f.missing.map Role.name)

end Fixture

end Golden
