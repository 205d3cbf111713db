import Golden.Files.Tree
import Golden.Fixture.Classify
import Golden.Fixture.Set

/-!
# Discovering fixtures

`resolve` lists a directory, without descending into it, and groups its files into fixtures. What
does not classify is passed over, and so are subdirectories. Expected outputs are read at once,
inputs only when asked for, and the first one that cannot be read ends the discovery.
-/

namespace Golden

/-- How a directory is read. -/
structure ResolveOptions where
  /-- The extension of programs; empty for the default. -/
  programExtension : Bytes := []
  /-- Are inputs read, or only their paths recorded? -/
  loadInput : Bool := false
deriving DecidableEq, Repr

/-- A file of a directory that belongs to a fixture. -/
structure Member where
  id : Bytes
  role : Role
  path : Bytes
deriving DecidableEq, Repr

/-- The files of a listing that belong to fixtures, in the order of the listing. -/
def membersOf (dir programExtension : Bytes) (listing : List (Bytes × Entry)) : List Member :=
  listing.filterMap fun (name, entry) =>
    if entry = .dir then none
    else (classify? name programExtension).map fun (id, role) => ⟨id, role, Path.join dir name⟩

/-- Reads a file of a fixture. -/
def readMember (t : Tree) (path : Bytes) : Except Fault Bytes :=
  match t.read path with
  | .ok data => .ok data
  | .error e => .error (.discovery path (some (.within "read fixture file" e.fault)))

/-- Puts one file into its slot. -/
def addMember (t : Tree) (loadInput : Bool) (s : FixtureSet) (m : Member) :
    Except Fault FixtureSet :=
  match m.role with
  | .program => .ok (s.alter m.id fun f => { f with programPath := m.path })
  | .input =>
    if loadInput then
      match readMember t m.path with
      | .ok data => .ok (s.alter m.id fun f => { f with inputPath := m.path, input := data })
      | .error e => .error e
    else .ok (s.alter m.id fun f => { f with inputPath := m.path })
  | .expected =>
    match readMember t m.path with
    | .ok data => .ok (s.alter m.id fun f => { f with expectedPath := m.path, expected := data })
    | .error e => .error e

/-- Puts files into their slots one after the other, up to the first that cannot be read. -/
def addMembers (t : Tree) (loadInput : Bool) (s : FixtureSet) : List Member → Except Fault FixtureSet
  | [] => .ok s
  | m :: ms =>
    match addMember t loadInput s m with
    | .ok s' => addMembers t loadInput s' ms
    | .error e => .error e

/-- The extension of programs that the options ask for. -/
def ResolveOptions.extension (o : ResolveOptions) : Bytes :=
  if o.programExtension.isEmpty then defaultProgramExtension else o.programExtension

/-- Groups the files of a listing into fixtures. -/
def resolveListing (t : Tree) (dir : Bytes) (o : ResolveOptions) (listing : List (Bytes × Entry)) :
    Except Fault FixtureSet :=
  addMembers t o.loadInput .empty (membersOf dir o.extension listing)

/-- Groups the files of a directory into fixtures. -/
def resolve (t : Tree) (dir : Bytes) (o : ResolveOptions) : Except Fault FixtureSet :=
  match t.list dir with
  | .error e => .error (.discovery dir (some e.fault))
  | .ok listing => resolveListing t dir o listing

end Golden
