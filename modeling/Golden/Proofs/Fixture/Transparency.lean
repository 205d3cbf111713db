import Golden.Proofs.Files.Listing
import Golden.Proofs.Fixture.ArchiveText
import Golden.Proofs.Fixture.Extraction
import Golden.Proofs.Fixture.Grouping
import Mathlib.Data.List.Sort

/-!
# A suite can be kept in an archive

Discovery sees of a directory the names and the contents of its files (`resolveListing_alike`). Extraction
into an empty directory adds the members of the archive as files and fails at none of them
(`writeMembers_withFiles`), and the members are those that the archive was put together from. So a suite
that goes through an archive is discovered as if its files had been written directly
(`extract_transparent`).

The joined paths must not be too long for the operating system, and cleaning the path of the directory
must not stray, or the members do not arrive (`extract_not_transparent`).
-/

namespace Golden

/-! ## What discovery sees -/

/-- The member as an entry of a directory. -/
def ArchiveMember.entry (m : ArchiveMember) : Bytes × Entry := (m.name, .file m.data)

/-- The same name, slots and contents; only the paths may differ. -/
structure Alike (f g : Fixture) : Prop where
  id : f.id = g.id
  missing : f.missing = g.missing
  isComplete : f.isComplete = g.isComplete
  hasInput : f.hasInput = g.hasInput
  input : f.input = g.input
  expected : f.expected = g.expected

/-- The content of each file is read at its joined path. -/
def Reads (t : Tree) (dir : Bytes) (ms : List ArchiveMember) : Prop :=
  ∀ m ∈ ms, t.read (Path.join dir m.name) = .ok m.data

section Discovery

variable {t t' : Tree} {dir dir' : Bytes} {ms : List ArchiveMember} {o : ResolveOptions}
  {s s' : FixtureSet} {f g : Fixture} {id : Bytes} {role : Role}

theorem Reads.exists_resolveListing (h : Reads t dir ms) (o : ResolveOptions) :
    ∃ s, resolveListing t dir o (ms.map ArchiveMember.entry) = .ok s := by
  refine addMembers_isOk_iff.mpr fun x hx _ => ?_
  obtain ⟨entry, hmem, -, hpath⟩ := mem_membersOf.mp hx
  obtain ⟨m, hm, rfl⟩ := List.mem_map.mp hmem
  exact ⟨m.data, hpath ▸ h m hm⟩

/-- The content of a slot is that of the file that belongs to it, wherever the files are. -/
theorem Reads.contentOf (h : Reads t dir ms) (h' : Reads t' dir' ms)
    (hhas : hasMember (membersOf dir o.extension (ms.map ArchiveMember.entry)) id role = true) :
    t.contentOf (slotPath dir o id role) = t'.contentOf (slotPath dir' o id role) := by
  obtain ⟨entry, hmem, hbelongs⟩ := hasMember_membersOf.mp hhas
  obtain ⟨m, hm, rfl⟩ := List.mem_map.mp hmem
  have hread : t.read (Path.join dir m.entry.1) = .ok m.data := h m hm
  have hread' : t'.read (Path.join dir' m.entry.1) = .ok m.data := h' m hm
  rw [hbelongs.path dir, hbelongs.path dir', Tree.contentOf, Tree.contentOf, hread, hread']

/-- Which slots are filled does not depend on where the directory is. -/
theorem hasMember_dir (dir dir' : Bytes) (listing : List (Bytes × Entry)) :
    hasMember (membersOf dir o.extension listing) id role
      = hasMember (membersOf dir' o.extension listing) id role := by
  rw [Bool.eq_iff_iff, hasMember_membersOf, hasMember_membersOf]

theorem alike_of_mem (h : Reads t dir ms) (h' : Reads t' dir' ms)
    (hs : resolveListing t dir o (ms.map ArchiveMember.entry) = .ok s)
    (hs' : resolveListing t' dir' o (ms.map ArchiveMember.entry) = .ok s')
    (hf : f ∈ s.fixtures) (hg : g ∈ s'.fixtures) (hid : f.id = g.id) : Alike f g := by
  have hslot : ∀ role, (f.path role).isEmpty = (g.path role).isEmpty := by
    intro role
    have hfilled := path_ne_nil_iff hs hf role
    have hfilled' := path_ne_nil_iff hs' hg role
    rw [hasMember_dir dir dir', hid] at hfilled
    rw [Bool.eq_iff_iff, List.isEmpty_iff, List.isEmpty_iff]
    exact not_iff_not.mp (hfilled.trans hfilled'.symm)
  have hmissing : f.missing = g.missing := by
    unfold Fixture.missing
    simp only [hslot]
  have heq := eq_assemble_of_mem hs hf
  have heq' := eq_assemble_of_mem hs' hg
  have hcontent : ∀ role, ∀ need : Bool,
      (if hasMember (membersOf dir o.extension (ms.map ArchiveMember.entry)) f.id role && need then
        t.contentOf (slotPath dir o f.id role) else [])
      = if hasMember (membersOf dir' o.extension (ms.map ArchiveMember.entry)) g.id role && need then
        t'.contentOf (slotPath dir' o g.id role) else [] := by
    intro role need
    rw [hasMember_dir dir dir', hid]
    split
    · rename_i hneed
      have hhas := (Bool.and_eq_true_iff.mp hneed).1
      rw [← hasMember_dir dir dir'] at hhas
      exact h.contentOf h' hhas
    · rfl
  refine ⟨hid, hmissing, by rw [Fixture.isComplete, Fixture.isComplete, hmissing], ?_, ?_, ?_⟩
  · exact congrArg (!·) (hslot .input)
  · have hinput := hcontent .input o.loadInput
    rw [congrArg Fixture.input heq, congrArg Fixture.input heq']
    exact hinput
  · have hexpected := hcontent .expected true
    simp only [Bool.and_true] at hexpected
    rw [congrArg Fixture.expected heq, congrArg Fixture.expected heq']
    exact hexpected

theorem map_id_eq (hs : resolveListing t dir o (ms.map ArchiveMember.entry) = .ok s)
    (hs' : resolveListing t' dir' o (ms.map ArchiveMember.entry) = .ok s') :
    s.fixtures.map Fixture.id = s'.fixtures.map Fixture.id := by
  have ha := (resolveListing_assembled hs).ascending
  have ha' := (resolveListing_assembled hs').ascending
  have hsorted : (s.fixtures.map Fixture.id).Pairwise (· < ·) := List.pairwise_map.mpr ha
  have hsorted' : (s'.fixtures.map Fixture.id).Pairwise (· < ·) := List.pairwise_map.mpr ha'
  refine hsorted.eq_of_mem_iff hsorted' fun id => ?_
  rw [← ha.ids_eq_map, ← ha'.ids_eq_map, mem_ids_iff hs, mem_ids_iff hs']

theorem forall₂_of_map_id_eq {R : Fixture → Fixture → Prop} {fs gs : List Fixture}
    (hids : fs.map Fixture.id = gs.map Fixture.id)
    (h : ∀ f ∈ fs, ∀ g ∈ gs, f.id = g.id → R f g) : List.Forall₂ R fs gs := by
  induction fs generalizing gs with
  | nil =>
    obtain rfl := List.map_eq_nil_iff.mp hids.symm
    exact .nil
  | cons f fs ih =>
    cases gs with
    | nil => cases hids
    | cons g gs =>
      obtain ⟨hid, hids⟩ := List.cons.inj hids
      refine .cons (h f List.mem_cons_self g List.mem_cons_self hid) (ih hids fun f' hf' g' hg' => ?_)
      exact h f' (List.mem_cons_of_mem _ hf') g' (List.mem_cons_of_mem _ hg')

/-- Wherever the same files are read, discovery finds the same fixtures. -/
theorem resolveListing_alike (h : Reads t dir ms) (h' : Reads t' dir' ms) (o : ResolveOptions) :
    ∃ s s', resolveListing t dir o (ms.map ArchiveMember.entry) = .ok s ∧
      resolveListing t' dir' o (ms.map ArchiveMember.entry) = .ok s' ∧
      List.Forall₂ Alike s.fixtures s'.fixtures := by
  obtain ⟨s, hs⟩ := h.exists_resolveListing o
  obtain ⟨s', hs'⟩ := h'.exists_resolveListing o
  refine ⟨s, s', hs, hs', forall₂_of_map_id_eq (map_id_eq hs hs') fun f hf g hg hid => ?_⟩
  exact alike_of_mem h h' hs hs' hf hg hid

end Discovery

namespace Archive

/-! ## Directories that members can be written to -/

/-- An archive that keeps its members as they are, and whose members have different names that files can
have. -/
structure IsSuite (a : Archive) : Prop where
  readable : IsReadable a
  checked : ∀ m ∈ a.members, checkName m.name = .ok ()
  ne_dot : ∀ m ∈ a.members, m.name ≠ utf8 "."
  noNul : ∀ m ∈ a.members, 0 ∉ m.name
  short : ∀ m ∈ a.members, m.name.length ≤ Tree.maxName
  distinct : (a.members.map ArchiveMember.name).Nodup

instance (a : Archive) : Decidable (IsSuite a) :=
  decidable_of_iff
    (IsReadable a ∧ (∀ m ∈ a.members, checkName m.name = .ok ()) ∧
      (∀ m ∈ a.members, m.name ≠ utf8 ".") ∧ (∀ m ∈ a.members, 0 ∉ m.name) ∧
      (∀ m ∈ a.members, m.name.length ≤ Tree.maxName) ∧
      (a.members.map ArchiveMember.name).Nodup)
    ⟨fun ⟨hreadable, hchecked, hdot, hnul, hshort, hdistinct⟩ =>
        ⟨hreadable, hchecked, hdot, hnul, hshort, hdistinct⟩,
      fun h => ⟨h.readable, h.checked, h.ne_dot, h.noNul, h.short, h.distinct⟩⟩

/-- The path leads to a directory, also when it is cleaned, and is not too long to be joined to the
names. -/
structure Accessible (t : Tree) (dir : Bytes) (there : Location) (ms : List ArchiveMember) : Prop where
  locate : t.locate dir = .ok there
  isDir : t.isDir there = true
  strays : t.cleanStrays dir = false
  short : ∀ m ∈ ms, (Path.join dir m.name).length ≤ Tree.maxPath

instance (t : Tree) (dir : Bytes) (there : Location) (ms : List ArchiveMember) :
    Decidable (Accessible t dir there ms) :=
  decidable_of_iff
    (t.locate dir = .ok there ∧ t.isDir there = true ∧ t.cleanStrays dir = false ∧
      ∀ m ∈ ms, (Path.join dir m.name).length ≤ Tree.maxPath)
    ⟨fun ⟨hlocate, hdir, hstrays, hshort⟩ => ⟨hlocate, hdir, hstrays, hshort⟩,
      fun h => ⟨h.locate, h.isDir, h.strays, h.short⟩⟩

/-- The tree with files added to a directory. -/
def withFiles (t : Tree) (there : Location) (ms : List ArchiveMember) : Tree :=
  { t with entries := t.entries ++ ms.map fun m => (there ++ [m.name], .file m.data) }

variable {t : Tree} {dir path : Bytes} {there l : Location} {links : Nat} {a : Archive}
  {ms : List ArchiveMember} {m : ArchiveMember} {e : Entry}

theorem IsSuite.isFileName (h : IsSuite a) (hm : m ∈ a.members) : Tree.IsFileName m.name := by
  obtain ⟨hne, hdots, hslash⟩ := checkName_eq_ok (h.checked m hm)
  exact ⟨hne, h.ne_dot m hm, hdots, hslash, h.noNul m hm, h.short m hm⟩

/-! ## The tree with the files -/

theorem put_eq_withFiles (there : Location) (m : ArchiveMember)
    (hfree : t.get? (there ++ [m.name]) = none) :
    t.put (there ++ [m.name]) (.file m.data) = withFiles t there [m] := by
  have hnew : t.entries.find? (·.1 = there ++ [m.name]) = none := by
    unfold Tree.get? at hfree
    rw [if_neg (by simp)] at hfree
    exact Option.map_eq_none_iff.mp hfree
  have hany : ¬(t.entries.any (·.1 = there ++ [m.name])) = true := by
    rw [List.any_eq_true]
    rintro ⟨p, hp, heq⟩
    exact List.find?_eq_none.mp hnew p hp heq
  rw [Tree.put, if_neg hany]
  rfl

theorem withFiles_cons (t : Tree) (there : Location) (m : ArchiveMember) (ms : List ArchiveMember) :
    withFiles (withFiles t there [m]) there ms = withFiles t there (m :: ms) := by
  simp [withFiles]

theorem get?_withFiles_of_ne (h : ∀ m ∈ ms, l ≠ there ++ [m.name]) :
    (withFiles t there ms).get? l = t.get? l := by
  have hnone : (ms.map fun m => (there ++ [m.name], Entry.file m.data)).find? (·.1 = l) = none := by
    refine List.find?_eq_none.mpr fun p hp heq => ?_
    obtain ⟨m, hm, rfl⟩ := List.mem_map.mp hp
    exact h m hm (of_decide_eq_true heq).symm
  unfold Tree.get? withFiles
  rw [List.find?_append, hnone, Option.or_none]

theorem extends_withFiles (t : Tree) (there : Location) (ms : List ArchiveMember) :
    t.Extends (withFiles t there ms) := by
  refine ⟨rfl, fun l e hget => ?_⟩
  unfold Tree.get? withFiles at *
  split at hget
  · rename_i hl
    rw [if_pos hl]
    exact hget
  · rename_i hl
    obtain ⟨p, hp, rfl⟩ := Option.map_eq_some_iff.mp hget
    rw [if_neg hl, List.find?_append, hp]
    rfl

theorem children_withFiles (ms : List ArchiveMember) (hempty : t.children there = []) :
    ((withFiles t there ms).children there).Perm (ms.map ArchiveMember.entry) := by
  have hold : Tree.childrenOf there t.entries = [] :=
    List.perm_nil.mp ((t.children_perm there).symm.trans (.of_eq hempty))
  have hnew : Tree.childrenOf there (ms.map fun m => (there ++ [m.name], .file m.data))
      = ms.map ArchiveMember.entry := by
    unfold Tree.childrenOf
    rw [List.filterMap_map, ← List.filterMap_eq_map]
    refine List.filterMap_congr fun m _ => ?_
    simp [Tree.childName?_eq_some_iff.mpr rfl, ArchiveMember.entry]
  refine (Tree.children_perm _ there).trans (.of_eq ?_)
  rw [withFiles]
  show Tree.childrenOf there (t.entries ++ _) = _
  rw [← hnew, Tree.childrenOf, List.filterMap_append]
  show Tree.childrenOf there t.entries ++ _ = _
  rw [hold, List.nil_append]
  rfl

/-- What an extraction writes, where the directory has none of the names yet. -/
theorem writeMembers_withFiles (hopens : t.Opens dir links there) (seen : List Bytes)
    (hcheck : ∀ m ∈ ms, checkName m.name = .ok ()) (hnames : ∀ m ∈ ms, Tree.IsFileName m.name)
    (hshort : ∀ m ∈ ms, (Path.join dir m.name).length ≤ Tree.maxPath)
    (hfree : ∀ m ∈ ms, t.get? (there ++ [m.name]) = none) (hseen : ∀ m ∈ ms, m.name ∉ seen)
    (hdistinct : (ms.map ArchiveMember.name).Nodup) :
    writeMembers t dir seen ms = ⟨withFiles t there ms, none⟩ := by
  induction ms generalizing t seen with
  | nil =>
    rw [writeMembers, withFiles, List.map_nil, List.append_nil]
  | cons m ms ih =>
    obtain ⟨hcheck₀, hcheck⟩ := List.forall_mem_cons.mp hcheck
    obtain ⟨hname₀, hnames⟩ := List.forall_mem_cons.mp hnames
    obtain ⟨hshort₀, hshort⟩ := List.forall_mem_cons.mp hshort
    obtain ⟨hfree₀, hfree⟩ := List.forall_mem_cons.mp hfree
    obtain ⟨hseen₀, hseen⟩ := List.forall_mem_cons.mp hseen
    obtain ⟨hfresh, hdistinct⟩ := List.nodup_cons.mp hdistinct
    have hne : ∀ x ∈ ms, x.name ≠ m.name := fun x hx heq =>
      hfresh (heq ▸ List.mem_map_of_mem hx)
    have hopens' : (withFiles t there [m]).Opens dir links there :=
      hopens.extends (extends_withFiles t there [m])
    have hfree' : ∀ x ∈ ms, (withFiles t there [m]).get? (there ++ [x.name]) = none := by
      intro x hx
      rw [get?_withFiles_of_ne]
      · exact hfree x hx
      · intro y hy heq
        obtain rfl := List.mem_singleton.mp hy
        exact hne x hx (by simpa using heq)
    have hseen' : ∀ x ∈ ms, x.name ∉ m.name :: seen := by
      intro x hx hmem
      rcases List.mem_cons.mp hmem with heq | hmem
      · exact hne x hx heq
      · exact hseen x hx hmem
    have hnew : ¬seen.contains m.name = true := by simpa using hseen₀
    rw [writeMembers, hcheck₀]
    simp only [if_neg hnew, hopens.writeFile hname₀ hshort₀ hfree₀, put_eq_withFiles there m hfree₀]
    rw [ih hopens' (m.name :: seen) hcheck hnames hshort hfree' hseen' hdistinct, withFiles_cons]

/-! ## Transparency -/

/-- The files of a directory can be read through their joined paths. -/
theorem reads_of_children (hsuite : IsSuite a) (hopens : t.Opens dir links there)
    (hshort : ∀ m ∈ a.members, (Path.join dir m.name).length ≤ Tree.maxPath)
    (hchildren : (t.children there).Perm (a.members.map ArchiveMember.entry)) :
    Reads t dir a.members := by
  have hnodup : ((t.children there).map Prod.fst).Nodup := by
    rw [(hchildren.map Prod.fst).nodup_iff, List.map_map]
    exact hsuite.distinct
  intro m hm
  refine hopens.read_join (hsuite.isFileName hm) (hshort m hm) (Tree.get?_of_mem_children hnodup ?_)
  exact hchildren.mem_iff.mpr (List.mem_map_of_mem hm)

theorem resolve_of_children {o : ResolveOptions} {s : FixtureSet} (hlocate : t.locate dir = .ok there)
    (hdir : t.isDir there = true) {listing : List (Bytes × Entry)}
    (hchildren : (t.children there).Perm listing) (hs : resolveListing t dir o listing = .ok s) :
    resolve t dir o = .ok s :=
  resolve_eq_ok_iff.mpr ⟨_, Tree.list_of_locate hlocate hdir, resolveListing_perm hchildren hs⟩

/-- Extraction of an archive into an empty directory succeeds and adds exactly its members to the tree, as
files of that directory. On it discovery finds the same names, slots and contents as on any directory
that holds these files. -/
theorem extract_transparent (hsuite : IsSuite a) (hread : t.read path = .ok (text a))
    (hdest : Accessible t dir there a.members) (hempty : t.children there = []) :
    let r := extract t path dir
    r.fault = none ∧
    r.tree.list dir = .ok (r.tree.children there) ∧
    (r.tree.children there).Perm (a.members.map ArchiveMember.entry) ∧
    (∀ m ∈ a.members, r.tree.read (Path.join dir m.name) = .ok m.data) ∧
    (∀ l, (∀ m ∈ a.members, l ≠ there ++ [m.name]) → r.tree.get? l = t.get? l) ∧
    ∀ t' dir' there', Accessible t' dir' there' a.members →
      (t'.children there').Perm (a.members.map ArchiveMember.entry) →
      ∀ o, ∃ s s', resolve r.tree dir o = .ok s ∧ resolve t' dir' o = .ok s' ∧
        List.Forall₂ Alike s.fixtures s'.fixtures := by
  obtain ⟨links, hopens⟩ := Tree.exists_opens hdest.locate hdest.isDir hdest.strays
  have hwrite : extract t path dir = ⟨withFiles t there a.members, none⟩ := by
    rw [extract, hread]
    show writeMembers t dir [] (parse (text a)).members = _
    rw [parse_text hsuite.readable]
    exact writeMembers_withFiles hopens [] hsuite.checked (fun m hm => hsuite.isFileName hm)
      hdest.short (fun m _ => Tree.get?_eq_none_of_children hempty) (fun m _ => List.not_mem_nil)
      hsuite.distinct
  have hext := extends_withFiles t there a.members
  have hlocate := hext.locate hdest.locate hdest.isDir
  have hdir := hext.isDir hdest.isDir
  have hchildren := children_withFiles a.members hempty
  have hreads := reads_of_children hsuite (hopens.extends hext) hdest.short hchildren
  rw [hwrite]
  refine ⟨rfl, Tree.list_of_locate hlocate hdir, hchildren, hreads,
    fun l hl => get?_withFiles_of_ne hl, ?_⟩
  intro t' dir' there' hdirect hchildren' o
  obtain ⟨links', hopens'⟩ := Tree.exists_opens hdirect.locate hdirect.isDir hdirect.strays
  have hreads' := reads_of_children hsuite hopens' hdirect.short hchildren'
  obtain ⟨s, s', hs, hs', halike⟩ := resolveListing_alike hreads hreads' o
  exact ⟨s, s', resolve_of_children hlocate hdir hchildren hs,
    resolve_of_children hdirect.locate hdirect.isDir hchildren' hs', halike⟩

/-- An archive with lines and names that look almost like marker lines. -/
def dashedArchive : Archive where
  comment := "-- a.out--\n"
  members := [⟨"a -- b.asm", "--  --\n-- a.out -- \n"⟩, ⟨"a -- b.in", []⟩, ⟨"a -- b.out", "1\n"⟩]

/-- The archive, and an empty directory. -/
def packedTree : Tree :=
  { cwd := []
    entries := [(["s.txtar"], .file (text dashedArchive)), (["d"], .dir), (["x"], .dir)] }

/-- The files of the archive in a directory behind a link. -/
def unpackedTree : Tree :=
  { cwd := []
    entries := (["l"], .link "cases") :: (["cases"], .dir) ::
      dashedArchive.members.map fun m => (["cases", m.name], .file m.data) }

theorem isSuite_dashedArchive : IsSuite dashedArchive := by decide +kernel

theorem extract_transparent_packedTree :
    IsSuite dashedArchive ∧
    (extract packedTree "s.txtar" "x/.././d//").fault = none ∧
    (extract packedTree "s.txtar" "x/.././d//").tree.read "d/a -- b.asm"
      = .ok (utf8 "--  --\n-- a.out -- \n") ∧
    ∃ s s', resolve (extract packedTree "s.txtar" "x/.././d//").tree "x/.././d//" {} = .ok s ∧
      resolve unpackedTree "l" {} = .ok s' ∧ List.Forall₂ Alike s.fixtures s'.fixtures := by
  have hdest : Accessible packedTree "x/.././d//" ["d"] dashedArchive.members := by decide +kernel
  have hempty : packedTree.children ["d"] = [] := Tree.children_eq (by decide +kernel)
  have hdirect : Accessible unpackedTree "l" ["cases"] dashedArchive.members := by decide +kernel
  have hfiles : (unpackedTree.children ["cases"]).Perm
      (dashedArchive.members.map ArchiveMember.entry) := by
    rw [Tree.children_eq (by decide +kernel)]
    exact .of_eq (by decide +kernel)
  have hread : packedTree.read "s.txtar" = .ok (text dashedArchive) := by decide +kernel
  obtain ⟨hfault, -, -, hreads, -, hresolve⟩ :=
    extract_transparent isSuite_dashedArchive hread hdest hempty
  refine ⟨isSuite_dashedArchive, hfault, ?_, hresolve unpackedTree "l" ["cases"] hdirect hfiles {}⟩
  exact hreads ⟨"a -- b.asm", "--  --\n-- a.out -- \n"⟩ List.mem_cons_self

/-! ## Archives that do not arrive -/

/-- The members of the archive arrive in the directory that the path leads to. -/
def MembersArrive (t : Tree) (path dir : Bytes) (a : Archive) : Prop :=
  ∀ there, IsSuite a → t.read path = .ok (text a) → t.locate dir = .ok there →
    t.isDir there = true → t.children there = [] →
    (extract t path dir).fault = none ∧
      ((extract t path dir).tree.children there).Perm (a.members.map ArchiveMember.entry)

/-- One member with a name of 250 bytes. -/
def longArchive : Archive := ⟨[], [longMember]⟩

/-- The archive beside the directories of `longTree`. -/
def longPackedTree : Tree := longTree.put ["s.txtar"] (.file (text longArchive))

/-- One output. -/
def outputArchive : Archive := ⟨[], [⟨"a.out", "1\n"⟩]⟩

/-- Two directories of one name, and a link that leads away from the one beside it. -/
def strayTree : Tree :=
  { cwd := []
    entries := [(["s.txtar"], .file (text outputArchive)), (["e"], .dir), (["d"], .dir),
      (["d", "e"], .dir), (["d", "sub"], .dir), (["l"], .link "d/sub")] }

theorem isSuite_longArchive : IsSuite longArchive := by decide +kernel

theorem isSuite_outputArchive : IsSuite outputArchive := by decide +kernel

theorem longTree_get?_archive : longTree.get? ["s.txtar"] = none := by
  refine Option.eq_none_iff_forall_ne_some.mpr fun e hget => ?_
  rcases Tree.exists_of_get? hget with ⟨hnil, -⟩ | hmem
  · cases hnil
  · obtain ⟨k, -, hk⟩ := List.mem_map.mp hmem
    have hnames : longNames.take k = [utf8 "s.txtar"] := congrArg Prod.fst hk
    have hname : utf8 "s.txtar" ∈ longNames.take k := by
      rw [hnames]
      exact List.mem_singleton_self _
    exact absurd (longNames_eq (List.mem_of_mem_take hname)) (by decide +kernel)

theorem longPackedTree_children : longPackedTree.children longNames = [] := by
  have hentries : longPackedTree = withFiles longTree [] [⟨"s.txtar", text longArchive⟩] :=
    put_eq_withFiles [] ⟨"s.txtar", text longArchive⟩ longTree_get?_archive
  refine List.eq_nil_iff_forall_not_mem.mpr fun ⟨name, e⟩ hlisted => ?_
  have hmem := Tree.mem_children.mp hlisted
  -- An entry of the innermost directory would stand one level below all of these.
  rw [hentries] at hmem
  rcases List.mem_append.mp hmem with hmem | hmem
  · obtain ⟨k, -, hk⟩ := List.mem_map.mp hmem
    have hlen := congrArg (·.1.length) hk
    simp only [List.length_take, List.length_append, List.length_singleton] at hlen
    omega
  · have hlen := congrArg (·.1.length) (List.mem_singleton.mp hmem)
    simp [longNames] at hlen

theorem longPackedTree_read : longPackedTree.read "s.txtar" = .ok (text longArchive) := by
  have hfile : longPackedTree.get? ([] ++ [utf8 "s.txtar"]) = some (.file (text longArchive)) :=
    Tree.get?_put_self _ (by simp) _
  have hcwd : longPackedTree.cwd = [] := Tree.put_cwd _ _ _
  have hnames : Tree.pathNames (utf8 "s.txtar") = [utf8 "s.txtar"] := by decide +kernel
  have hwalk : longPackedTree.walk "s.txtar" = .ok (.found ["s.txtar"]) := by
    rw [Tree.walk, if_neg (by decide), if_neg (by decide), if_neg (by decide), Tree.start,
      if_neg (by decide), hcwd, hnames]
    exact Tree.walkFrom_file rfl (by decide +kernel) hfile _
  have hlocate : longPackedTree.locate "s.txtar" = .ok ["s.txtar"] := by
    rw [Tree.locate, hwalk]
  exact Tree.read_eq_ok_iff.mpr ⟨_, hlocate, hfile⟩

/-- An extraction that fails at no member has written the first one. -/
theorem exists_writeFile {seen : List Bytes} (h : (writeMembers t dir seen (m :: ms)).fault = none) :
    ∃ t', t.writeFile (Path.join dir m.name) m.data = .ok t' := by
  rw [writeMembers] at h
  split at h
  · cases h
  · split at h
    · cases h
    · split at h
      · cases h
      · rename_i t' hwrite
        exact ⟨t', hwrite⟩

theorem longPackedTree_not_membersArrive :
    ¬MembersArrive longPackedTree "s.txtar" longDir longArchive := by
  intro h
  have hext : longTree.Extends longPackedTree := Tree.extends_put longTree_get?_archive _
  have hdir := longDir_leads.isDir_end
  obtain ⟨hfault, -⟩ := h longNames isSuite_longArchive longPackedTree_read
    (hext.locate (longDir_locate longDir_leads) hdir) (hext.isDir hdir) longPackedTree_children
  rw [extract, longPackedTree_read] at hfault
  simp only [write, parse_text isSuite_longArchive.readable] at hfault
  obtain ⟨t', hwrite⟩ := exists_writeFile hfault
  obtain ⟨d, hwalk, -⟩ := Tree.writeFile_eq_ok hwrite
  obtain ⟨-, -, hlen, -⟩ := Tree.walk_eq_ok hwalk
  have hlong := lt_length_join_longDir longMember.name (by decide) (by decide) (by decide)
    (by decide)
  have hname : longMember.name.length = 250 := List.length_replicate
  rw [Tree.maxPath] at hlen
  omega

theorem strayTree_not_membersArrive : ¬MembersArrive strayTree "s.txtar" "l/../e" outputArchive := by
  intro h
  have hempty : strayTree.children ["d", "e"] = [] := Tree.children_eq (by decide +kernel)
  obtain ⟨-, hfiles⟩ := h ["d", "e"] isSuite_outputArchive (by decide +kernel) (by decide +kernel)
    (by decide +kernel) hempty
  have hchildren : (extract strayTree "s.txtar" "l/../e").tree.children ["d", "e"] = [] :=
    Tree.children_eq (by decide +kernel)
  rw [hchildren] at hfiles
  exact absurd hfiles.length_eq (by decide)

/-- Into an empty directory whose path is too long to be joined to a name nothing is extracted. Where
cleaning the path strays, the members are written into another directory, and the extraction does not
fail. -/
theorem extract_not_transparent :
    ¬MembersArrive longPackedTree "s.txtar" longDir longArchive ∧
    ¬MembersArrive strayTree "s.txtar" "l/../e" outputArchive ∧
    (extract strayTree "s.txtar" "l/../e").fault = none ∧
    (extract strayTree "s.txtar" "l/../e").tree.get? ["e", "a.out"] = some (.file "1\n") :=
  ⟨longPackedTree_not_membersArrive, strayTree_not_membersArrive, by decide +kernel,
    by decide +kernel⟩

end Archive

end Golden
