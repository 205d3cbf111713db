import Golden.Fixture.Basic

/-!
# Which file belongs where

A file name is split at its last dot into a base name, which identifies the fixture, and an
extension, which gives the role. The extension of programs is a setting; those of inputs and expected
outputs are fixed.
-/

namespace Golden

/-- The extension of programs unless configured otherwise. -/
def defaultProgramExtension : Bytes := ".asm"

/-- The extension of input files. -/
def inputExtension : Bytes := ".in"

/-- The extension of expected-output files. -/
def expectedExtension : Bytes := ".out"

/-- Splits a name at its last dot; both the part before the dot and the part after it must be
non-empty. The extension keeps its dot. -/
def splitExtension? (name : Bytes) : Option (Bytes × Bytes) :=
  match Bytes.lastIndexOf '.' name with
  | none => none
  | some dot =>
    if dot = 0 || dot + 1 = name.length then none else some (name.take dot, name.drop dot)

/-- The role that an extension gives. The program extension is looked at first. -/
def roleOf? (programExtension extension : Bytes) : Option Role :=
  if extension = programExtension then some .program
  else if extension = inputExtension then some .input
  else if extension = expectedExtension then some .expected
  else none

/-- The fixture and the role of a file name, if it belongs to any. -/
def classify? (name programExtension : Bytes) : Option (Bytes × Role) :=
  match splitExtension? name with
  | none => none
  | some (id, extension) => (roleOf? programExtension extension).map fun role => (id, role)

end Golden
