import Golden.Proofs.Files.Listing
import Golden.Proofs.Fixture.Extraction
import Golden.Proofs.Fixture.Grouping
import Golden.Run.Options

/-!
# Fixtures come from their directory

Discovery lists a directory through its path, and opens the files of the listing through joined paths,
which are cleaned. Where cleaning does not stray, a joined path leads to what the entry leads to in the
listed directory, so the contents and the program of a fixture are those of that directory
(`resolve_origin`).

Where an element that is dropped with the `..` behind it is a link, they can be those of another
directory. Besides, a joined path can be too long for the operating system, or the links of the directory
and of the entry together too many (`not_leadsToListed`).
-/

namespace Golden

variable {t : Tree} {dir name path data : Bytes} {there : Location} {o : ResolveOptions}
  {s : FixtureSet} {f : Fixture} {role : Role}

/-! ## Where a path and an entry lead -/

/-- The path is the joined one of an entry of the directory, and leads to what the entry leads to there,
if the operating system takes so long a path and so many links. -/
structure Records (t : Tree) (dir : Bytes) (there : Location) (name path : Bytes) : Prop where
  eq_join : path = Path.join dir name
  leads : path.length ≤ Tree.maxPath → t.locate path ≠ .error .tooManyLinks →
    t.locate path = t.locateIn there name

/-- The entry leads to a file with this content. -/
def HoldsContent (t : Tree) (there : Location) (name content : Bytes) : Prop :=
  ∃ l, t.locateIn there name = .ok l ∧ t.get? l = some (.file content)

theorem Tree.Opens.records {links : Nat} (h : t.Opens dir links there) (hname : Tree.IsFileName name) :
    Records t dir there name (Path.join dir name) :=
  ⟨rfl, fun hlen hlinks => h.locate_join hname hlen hlinks⟩

/-- What can be read at a recorded path is the content of the entry. -/
theorem Records.holdsContent (h : Records t dir there name path) (hread : t.read path = .ok data) :
    HoldsContent t there name data := by
  obtain ⟨l, hlocate, hfile⟩ := Tree.read_eq_ok_iff.mp hread
  obtain ⟨-, -, hlen, -⟩ := Tree.walk_eq_ok (Tree.locate_eq_ok hlocate)
  have hlinks : t.locate path ≠ .error .tooManyLinks := by
    rw [hlocate]
    nofun
  rw [h.leads hlen hlinks] at hlocate
  exact ⟨l, hlocate, hfile⟩

/-! ## Where a fixture comes from -/

/-- An entry of the directory fills the slot of a role, and its path is recorded there. -/
structure Fills (t : Tree) (dir : Bytes) (there : Location) (o : ResolveOptions) (f : Fixture)
    (role : Role) (name : Bytes) : Prop where
  listed : ∃ e, (name, e) ∈ t.children there ∧ Belongs o (name, e) f.id role
  records : Records t dir there name (f.path role)

/-- The fixture comes from the directory: an entry fills each slot that is not free, the contents that are
loaded are those of the entries, and the program that an interpreter is given is that of an entry. -/
structure ComesFrom (t : Tree) (dir : Bytes) (there : Location) (o : ResolveOptions) (f : Fixture) :
    Prop where
  slots : ∀ role, f.path role ≠ [] → ∃ name, Fills t dir there o f role name
  expected : f.expectedPath ≠ [] →
    ∃ name, Fills t dir there o f .expected name ∧ HoldsContent t there name f.expected
  input : f.inputPath ≠ [] → o.loadInput = true →
    ∃ name, Fills t dir there o f .input name ∧ HoldsContent t there name f.input
  program : f.programPath ≠ [] → ∀ run : RunOptions,
    ∃ name, Fills t dir there o f .program name ∧
      run.args f = run.command ++ run.extraArgs ++ [Path.join dir name] ++ run.inputArgs f

/-- An entry fills a slot that is not free. -/
theorem exists_fills (hrecords : ∀ entry ∈ t.children there, Records t dir there entry.1
      (Path.join dir entry.1))
    (h : resolveListing t dir o (t.children there) = .ok s) (hf : f ∈ s.fixtures) (role : Role)
    (hne : f.path role ≠ []) : ∃ name, Fills t dir there o f role name := by
  obtain ⟨⟨name, e⟩, hmem, hbelongs⟩ := hasMember_membersOf.mp ((path_ne_nil_iff h hf role).mp hne)
  have hpath : f.path role = Path.join dir name := by
    rw [path_eq_slotPath h hf role hne, hbelongs.path dir]
  refine ⟨name, ⟨e, hmem, hbelongs⟩, ?_⟩
  rw [hpath]
  exact hrecords _ hmem

theorem comesFrom_of_mem (hrecords : ∀ entry ∈ t.children there, Records t dir there entry.1
      (Path.join dir entry.1))
    (h : resolveListing t dir o (t.children there) = .ok s) (hf : f ∈ s.fixtures) :
    ComesFrom t dir there o f where
  slots := fun role hne => exists_fills hrecords h hf role hne
  expected := by
    intro hne
    obtain ⟨name, hfills⟩ := exists_fills hrecords h hf .expected hne
    have hread := expected_of_mem h hf
    rw [if_neg hne] at hread
    exact ⟨name, hfills, hfills.records.holdsContent hread⟩
  input := by
    intro hne hload
    obtain ⟨name, hfills⟩ := exists_fills hrecords h hf .input hne
    have hread := input_of_mem h hf
    rw [if_neg (by simp [hne, hload])] at hread
    exact ⟨name, hfills, hfills.records.holdsContent hread⟩
  program := by
    intro hne run
    obtain ⟨name, hfills⟩ := exists_fills hrecords h hf .program hne
    have hpath : f.programPath = Path.join dir name := hfills.records.eq_join
    exact ⟨name, hfills, by rw [RunOptions.args, hpath]⟩

/-- In every tree with links, and for every path that leads to a directory and whose cleaning does not
stray: the joined path of every entry leads to what the entry leads to, a file can be read there, and
every fixture of the directory comes from it. -/
theorem resolve_origin (hwf : t.WellFormed) (hlocate : t.locate dir = .ok there)
    (hdir : t.isDir there = true) (hstrays : t.cleanStrays dir = false) :
    (∀ entry ∈ t.children there, Records t dir there entry.1 (Path.join dir entry.1)) ∧
    (∀ name data, (name, .file data) ∈ t.children there →
      (Path.join dir name).length ≤ Tree.maxPath → t.read (Path.join dir name) = .ok data) ∧
    ∀ o s, resolve t dir o = .ok s → ∀ f ∈ s.fixtures, ComesFrom t dir there o f := by
  obtain ⟨links, hopens⟩ := Tree.exists_opens hlocate hdir hstrays
  have hrecords : ∀ entry ∈ t.children there, Records t dir there entry.1 (Path.join dir entry.1) :=
    fun entry hmem => hopens.records (hwf.isFileName hmem)
  refine ⟨hrecords, ?_, ?_⟩
  · intro name data hmem hlen
    exact hopens.read_join (hwf.isFileName hmem) hlen (hwf.get?_of_mem_children hmem)
  · intro o s h f hf
    obtain ⟨listing, hlist, hgroup⟩ := resolve_eq_ok_iff.mp h
    rw [Tree.list_of_locate hlocate hdir] at hlist
    cases hlist
    exact comesFrom_of_mem hrecords hgroup hf

/-- A suite behind a link, with an output that is a link itself. -/
def linkedTree : Tree :=
  { cwd := []
    entries := [(["suite"], .dir), (["suite", "a.asm"], .file ""),
      (["suite", "a.out"], .link "../shared"), (["suite", "sub"], .dir), (["shared"], .file "1\n"),
      (["l"], .link "suite")] }

/-- The fixture of that suite. -/
def linkedFixture : Fixture where
  id := "a"
  programPath := "l/a.asm"
  expectedPath := "l/a.out"
  expected := "1\n"

theorem linkedTree_resolve : resolve linkedTree "l/./sub//../" {} = .ok ⟨[linkedFixture]⟩ := by
  have hlocate : linkedTree.locate "l/./sub//../" = .ok ["suite"] := by decide +kernel
  refine resolve_eq_ok_iff.mpr ⟨_, Tree.list_of_locate hlocate (by decide +kernel), ?_⟩
  rw [Tree.children_eq (by decide +kernel)]
  decide +kernel

/-- The `..` of this path leads back to the suite, and the output is read through both links. -/
theorem resolve_origin_linkedTree :
    linkedTree.WellFormed ∧
    linkedTree.locate "l/./sub//../" = .ok ["suite"] ∧
    linkedTree.cleanStrays "l/./sub//../" = false ∧
    ∃ name, Fills linkedTree "l/./sub//../" ["suite"] {} linkedFixture .expected name ∧
      HoldsContent linkedTree ["suite"] name "1\n" := by
  have hwf : linkedTree.WellFormed := by decide +kernel
  have hlocate : linkedTree.locate "l/./sub//../" = .ok ["suite"] := by decide +kernel
  have hdir : linkedTree.isDir ["suite"] = true := by decide +kernel
  have hstrays : linkedTree.cleanStrays "l/./sub//../" = false := by decide +kernel
  obtain ⟨-, -, hcomes⟩ := resolve_origin hwf hlocate hdir hstrays
  have hfixture := hcomes {} _ linkedTree_resolve linkedFixture List.mem_cons_self
  exact ⟨hwf, hlocate, hstrays, hfixture.expected (by decide)⟩

/-! ## Paths that lead elsewhere -/

/-- The joined path of every file of a fixture leads to what its entry leads to. -/
def LeadsToListed (t : Tree) (dir : Bytes) : Prop :=
  ∀ there, t.locate dir = .ok there → t.isDir there = true →
    ∀ entry ∈ t.children there, ∀ o id role, Belongs o entry id role →
      t.locate (Path.join dir entry.1) = t.locateIn there entry.1

theorem not_leadsToListed_of (there : Location) (name : Bytes) (e : Entry)
    (hlocate : t.locate dir = .ok there) (hdir : t.isDir there = true)
    (hmem : (there ++ [name], e) ∈ t.entries) (he : e ≠ .dir)
    (hclass : (classify? name defaultProgramExtension).isSome = true)
    (hdiff : t.locate (Path.join dir name) ≠ t.locateIn there name) : ¬LeadsToListed t dir := by
  intro h
  obtain ⟨⟨id, role⟩, hid⟩ := Option.isSome_iff_exists.mp hclass
  exact hdiff (h there hlocate hdir (name, e) (Tree.mem_children.mpr hmem) {} id role ⟨he, hid⟩)

/-- A link into a suite, and beside the link an output of the same name. -/
def detourTree : Tree :=
  { cwd := []
    entries := [(["suite"], .dir), (["suite", "a.asm"], .file ""), (["suite", "a.out"], .file "1\n"),
      (["suite", "sub"], .dir), (["l"], .link "suite/sub"), (["a.out"], .file "2\n")] }

theorem detourTree_resolve :
    resolve detourTree "l/.." {} = .ok
      ⟨[{ id := "a", programPath := "a.asm", expectedPath := "a.out", expected := "2\n" }]⟩ := by
  have hlocate : detourTree.locate "l/.." = .ok ["suite"] := by decide +kernel
  refine resolve_eq_ok_iff.mpr ⟨_, Tree.list_of_locate hlocate (by decide +kernel), ?_⟩
  rw [Tree.children_eq (by decide +kernel)]
  decide +kernel

/-- A name of 250 bytes. -/
def longName : Bytes := List.replicate 246 0x61 ++ utf8 ".out"

/-- The innermost directory of `Archive.longTree` as a suite. -/
def longSuite : Tree := Archive.longTree.put (Archive.longNames ++ [longName]) (.file "1\n")

/-- A directory with a link to itself, and an output that is a link. -/
def ringTree : Tree :=
  { cwd := []
    entries := [(["l"], .link "."), (["a.out"], .link "b"), (["b"], .file "1\n")] }

/-- A path through as many links as the operating system follows. -/
def ringDir : Bytes := Bytes.join [Path.slash] (List.replicate 40 (utf8 "l"))

theorem longTree_wellFormed : Archive.longTree.WellFormed where
  names := by
    intro p hp name hname
    obtain ⟨k, -, rfl⟩ := List.mem_map.mp hp
    rw [Archive.longNames_eq (List.mem_of_mem_take hname)]
    decide +kernel
  nodup := by
    -- The directories are told apart by their depths.
    refine List.Nodup.of_map List.length ?_
    have hdepths : (Archive.longTree.entries.map Prod.fst).map List.length = List.range 17 := by
      simp only [Archive.longTree, List.map_map]
      refine (List.map_congr_left fun k hk => ?_).trans (List.map_id' _)
      have hk : k < 17 := List.mem_range.mp hk
      simp only [Function.comp_apply, List.length_take, Archive.longNames, List.length_replicate]
      omega
    rw [hdepths]
    exact List.nodup_range

theorem longSuite_wellFormed : longSuite.WellFormed := by
  refine longTree_wellFormed.put (fun name hname => ?_) _
  rcases List.mem_append.mp hname with hname | hname
  · rw [Archive.longNames_eq hname]
    decide +kernel
  · rw [List.mem_singleton.mp hname]
    decide +kernel

theorem longSuite_not_leadsToListed : ¬LeadsToListed longSuite Archive.longDir := by
  have hnew : ∀ p ∈ Archive.longTree.entries, p.1 ≠ Archive.longNames ++ [longName] := by
    intro p hp heq
    obtain ⟨k, -, rfl⟩ := List.mem_map.mp hp
    have hlen := congrArg List.length heq
    simp only [List.length_take, List.length_append, List.length_singleton] at hlen
    omega
  have hnotDir : Archive.longTree.isDir (Archive.longNames ++ [longName]) = false := by
    refine Archive.isDir_eq_false_iff.mpr fun hget => ?_
    rcases Tree.exists_of_get? hget with ⟨hnil, -⟩ | hmem
    · exact absurd hnil (by simp)
    · exact hnew _ hmem rfl
  have hleads : longSuite.Leads (longSuite.start Archive.longDir) (Tree.pathNames Archive.longDir)
      Archive.longNames := by
    have hput := Archive.longDir_leads.put (e := .file "1\n") hnotDir
    rw [Tree.start, ← Tree.put_cwd] at hput
    exact hput
  have hfile : longSuite.get? (Archive.longNames ++ [longName]) = some (.file "1\n") :=
    Tree.get?_put_self _ (by simp) _
  have hmem : (Archive.longNames ++ [longName], Entry.file "1\n") ∈ longSuite.entries := by
    rcases Tree.exists_of_get? hfile with ⟨hnil, -⟩ | hmem
    · exact absurd hnil (by simp)
    · exact hmem
  refine not_leadsToListed_of Archive.longNames longName (.file "1\n")
    (Archive.longDir_locate hleads) hleads.isDir_end hmem (by decide) (by decide +kernel) ?_
  -- In its directory the file can be opened, but its path is too long.
  intro heq
  rw [Tree.locateIn, Tree.walkFrom_file hleads.isDir_end (by decide +kernel) hfile] at heq
  obtain ⟨-, -, hlen, -⟩ := Tree.walk_eq_ok (Tree.locate_eq_ok heq)
  have hlong := Archive.lt_length_join_longDir longName (by decide +kernel)
    (by decide +kernel) (by decide +kernel) (by decide +kernel)
  have hname : longName.length = 250 := by decide +kernel
  rw [Tree.maxPath] at hlen
  omega

theorem detourTree_not_leadsToListed : ¬LeadsToListed detourTree "l/.." := by
  have hlocate : detourTree.locate "l/.." = .ok ["suite"] := by decide +kernel
  have hmem : ([utf8 "suite"] ++ [utf8 "a.out"], Entry.file "1\n") ∈ detourTree.entries := by decide +kernel
  have hdiff : detourTree.locate (Path.join "l/.." "a.out") ≠ detourTree.locateIn ["suite"] "a.out" := by
    decide +kernel
  exact not_leadsToListed_of _ _ _ hlocate (by decide +kernel) hmem nofun (by decide +kernel) hdiff

theorem ringTree_not_leadsToListed : ¬LeadsToListed ringTree ringDir := by
  have hlocate : ringTree.locate ringDir = .ok [] := by decide +kernel
  have hmem : ([utf8 "a.out"], Entry.link "b") ∈ ringTree.entries := by decide +kernel
  have hdiff : ringTree.locate (Path.join ringDir "a.out") ≠ ringTree.locateIn [] "a.out" := by
    decide +kernel
  exact not_leadsToListed_of [] _ _ hlocate rfl hmem (by decide) (by decide +kernel) hdiff

/-- A path whose cleaning strays reads the output of another directory, though the listed one holds it.
And there are suites of which the operating system opens the directory but not the joined path of an
output, because it is too long or because too many links are followed. -/
theorem not_leadsToListed :
    (detourTree.WellFormed ∧ ¬LeadsToListed detourTree "l/.." ∧
      detourTree.locate "l/.." = .ok ["suite"] ∧
      detourTree.get? ["suite", "a.out"] = some (.file "1\n") ∧
      resolve detourTree "l/.." {} = .ok
        ⟨[{ id := "a", programPath := "a.asm", expectedPath := "a.out", expected := "2\n" }]⟩) ∧
    (longSuite.WellFormed ∧ ¬LeadsToListed longSuite Archive.longDir) ∧
    (ringTree.WellFormed ∧ ¬LeadsToListed ringTree ringDir) := by
  refine ⟨⟨?_, detourTree_not_leadsToListed, ?_, ?_, detourTree_resolve⟩,
    ⟨longSuite_wellFormed, longSuite_not_leadsToListed⟩, ?_, ringTree_not_leadsToListed⟩
  · decide +kernel
  · decide +kernel
  · decide +kernel
  · decide +kernel

end Golden
