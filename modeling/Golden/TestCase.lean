import Golden.Diff.Layout
import Golden.Fixture.Resolve

/-!
# Test cases for other test suites

Programs that run the same fixtures by themselves load them as test cases and compare outputs with
`compareOutput`.
-/

namespace Golden

/-- A fixture with everything that a test needs. -/
structure TestCase where
  name : Bytes
  /-- The path of the program. -/
  program : Bytes
  input : Bytes
  hasInput : Bool
  expected : Bytes
  /-- Is the program or the expected output missing? -/
  skip : Bool
deriving DecidableEq, Repr

/-- The directory in which test cases are usually kept. -/
def TestCase.defaultDirectory : Bytes := "test_cases"

/-- The test case of a fixture. -/
def TestCase.ofFixture (f : Fixture) : TestCase :=
  ⟨f.id, f.programPath, f.input, f.hasInput, f.expected, !f.isComplete⟩

/-- The test cases of a directory, ordered by name. -/
def loadTestCases (t : Tree) (dir programExtension : Bytes) : Except Fault (List TestCase) :=
  match resolve t dir ⟨programExtension, true⟩ with
  | .ok s => .ok (s.fixtures.map TestCase.ofFixture)
  | .error e => .error e

/-- Does the output equal the expected one, byte for byte? If not, the second part shows how the two
differ. -/
def compareOutput (expected actual : Bytes) : Bool × Bytes :=
  if expected = actual then (true, []) else (false, Diff.difference expected actual)

end Golden
