import Golden.Fixture.Basic

/-!
# Sets of fixtures

The fixtures of a directory, at most one for each base name: a map from identifiers to fixtures, held in
ascending bytewise order of the identifiers. What is read off a set in order, its identifiers and its
fixtures, goes by the identifiers and does not rely on how the set is held.
-/

namespace Golden

/-- Fixtures in ascending order of their identifiers. -/
structure FixtureSet where
  fixtures : List Fixture
deriving DecidableEq, Repr

namespace FixtureSet

/-- The set without fixtures. -/
def empty : FixtureSet := ⟨[]⟩

/-- Changes the fixture with an identifier, an absent one starting out empty. -/
def alterList (id : Bytes) (change : Fixture → Fixture) : List Fixture → List Fixture
  | [] => [change { id }]
  | f :: fs =>
    if f.id = id then change f :: fs
    else if id < f.id then change { id } :: f :: fs
    else f :: alterList id change fs

/-- Changes the fixture with an identifier, creating it on first sight. -/
def alter (s : FixtureSet) (id : Bytes) (change : Fixture → Fixture) : FixtureSet :=
  ⟨alterList id change s.fixtures⟩

/-- The fixture with an identifier. -/
def get? (s : FixtureSet) (id : Bytes) : Option Fixture := s.fixtures.find? (·.id = id)

/-- The number of fixtures. -/
def size (s : FixtureSet) : Nat := s.fixtures.length

/-- The identifiers, collected and sorted. -/
def ids (s : FixtureSet) : List Bytes := Bytes.sort (s.fixtures.map Fixture.id)

/-- The fixtures in the order of their identifiers, each looked up. -/
def sorted (s : FixtureSet) : List Fixture := s.ids.filterMap s.get?

end FixtureSet

end Golden
