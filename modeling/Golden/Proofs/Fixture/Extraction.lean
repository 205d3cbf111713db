import Golden.Fixture.Archive
import Golden.Proofs.Files.Links

/-!
# Extraction stays in its directory

The name of an archive member is any text, and it becomes part of a path that is cleaned. Where the
directory is reached without links and holds none, the names that pass `Archive.checkName` lead to an
entry of that directory and nowhere else (`Target.writeFile`, `Target.storable`), so an extraction
writes its leading members there, up to the first that cannot be stored, and changes nothing else
(`write_confined`).
-/

namespace Golden.Archive

/-! ## Names of members -/

theorem checkName_eq_ok {name : Bytes} (h : checkName name = .ok ()) :
    name ≠ [] ∧ name ≠ utf8 ".." ∧ Path.slash ∉ name := by
  unfold checkName at h
  split at h
  · cases h
  · rename_i hne
    split at h
    · cases h
    · rename_i hdots
      split at h
      · cases h
      · rename_i hplain
        refine ⟨by simpa using hne, ?_, ?_⟩
        · rintro rfl
          exact hdots (by decide)
        · intro hmem
          refine hplain (List.any_eq_true.mpr ⟨Path.slash, hmem, ?_⟩)
          decide

instance (name : Bytes) : Decidable (checkName name = .ok ()) :=
  match checkName name with
  | .ok () => .isTrue rfl
  | .error _ => .isFalse nofun

/-! ## The destination -/

/-- A directory into which members are written: the path leads to it without meeting a link, and it
holds no links. -/
structure Target (t : Tree) (dir : Bytes) (there : Location) : Prop where
  ne_nil : dir ≠ []
  leads : t.Leads (t.start dir) (Path.cleanElements dir) there
  noNul : 0 ∉ dir
  noLinks : ∀ name target, t.get? (there ++ [name]) ≠ some (.link target)

/-- Can the directory hold a file of this name, in place of what stands there? -/
def CanHold (t : Tree) (there : Location) (name : Bytes) : Prop :=
  name ≠ utf8 "." ∧ 0 ∉ name ∧ name.length ≤ Tree.maxName ∧ t.get? (there ++ [name]) ≠ some .dir

/-- Can a file of this name be written into the directory? Its path must not be too long either. -/
def Storable (t : Tree) (dir : Bytes) (there : Location) (name : Bytes) : Prop :=
  CanHold t there name ∧ (Path.join dir name).length ≤ Tree.maxPath

instance (t : Tree) (there : Location) (name : Bytes) : Decidable (CanHold t there name) :=
  inferInstanceAs (Decidable (_ ∧ _))

instance (t : Tree) (dir : Bytes) (there : Location) (name : Bytes) :
    Decidable (Storable t dir there name) :=
  inferInstanceAs (Decidable (_ ∧ _))

variable {t : Tree} {dir name data : Bytes} {there : Location}

theorem isDir_eq_false_iff {l : Location} : t.isDir l = false ↔ t.get? l ≠ some .dir := by
  simp [Tree.isDir]

theorem Target.opens (h : Target t dir there) : t.Opens dir Tree.maxLinks there :=
  ⟨h.ne_nil, h.noNul, h.leads.arrives _⟩

theorem Storable.isFileName (hcheck : checkName name = .ok ()) (hs : Storable t dir there name) :
    Tree.IsFileName name := by
  obtain ⟨hne, hdots, hslash⟩ := checkName_eq_ok hcheck
  obtain ⟨⟨hdot, hnul, hlen, -⟩, -⟩ := hs
  exact ⟨hne, hdot, hdots, hslash, hnul, hlen⟩

/-- The joined path of `.` leads to the directory itself. -/
theorem Target.walkFrom_join_dot (h : Target t dir there) (n : Nat) :
    t.walkFrom n (t.start (Path.join dir (utf8 "."))) (Tree.pathNames (Path.join dir (utf8 ".")))
      = .ok (.found there) := by
  have hleads := h.leads
  rw [Tree.start_join h.ne_nil, Path.join_eq_clean h.ne_nil, Tree.pathNames_clean,
    Path.cleanElements_join_dot h.ne_nil]
  split
  · rename_i hnone
    rw [hnone.2] at hleads
    obtain ⟨hdir, heq⟩ := hleads
    exact Tree.walkFrom_eq_found n (Tree.leads_singleton.mpr ⟨hdir, by decide, heq ▸ hdir, heq⟩)
  · exact Tree.walkFrom_eq_found n hleads

/-! ## Writing one member -/

/-- A member that can be stored is written under its name in the directory. -/
theorem Target.writeFile (h : Target t dir there) (hcheck : checkName name = .ok ())
    (hs : Storable t dir there name) (data : Bytes) :
    t.writeFile (Path.join dir name) data = .ok (t.put (there ++ [name]) (.file data)) := by
  have hname := hs.isFileName hcheck
  have hwalk := h.opens.walk_join hname hs.2
  rw [Tree.walkFrom_singleton _ h.leads.isDir_end hname.ne_dot hname.ne_dots (h.noLinks name),
    if_neg (Nat.not_lt.mpr hname.short)] at hwalk
  by_cases hget : t.get? (there ++ [name]) = none
  · rw [Tree.writeFile, hwalk, if_pos hget]
  · rw [Tree.writeFile, hwalk, if_neg hget]
    simp [isDir_eq_false_iff.mpr hs.1.2.2.2]

/-- A member is written only if it can be stored. -/
theorem Target.storable (h : Target t dir there) (hcheck : checkName name = .ok ()) {t' : Tree}
    (hw : t.writeFile (Path.join dir name) data = .ok t') : Storable t dir there name := by
  obtain ⟨hne, hdots, hslash⟩ := checkName_eq_ok hcheck
  obtain ⟨d, hwalk, hfound⟩ := Tree.writeFile_eq_ok hw
  obtain ⟨-, hnul', hpath, hwalk⟩ := Tree.walk_eq_ok hwalk
  have hdot : name ≠ utf8 "." := by
    rintro rfl
    rw [h.walkFrom_join_dot] at hwalk
    have hdir := hfound there (Except.ok.inj hwalk).symm
    rw [h.leads.isDir_end] at hdir
    cases hdir
  have helems := Path.cleanElements_join h.ne_nil hslash hne hdot hdots
  have hnul : 0 ∉ name := by
    intro hmem
    rw [Path.join_eq_clean h.ne_nil] at hnul'
    exact hnul' (Path.mem_clean_of_mem_cleanElements (by rw [helems]; simp) hmem)
  rw [h.opens.walkFrom_join hslash hne hdot hdots,
    Tree.walkFrom_singleton _ h.leads.isDir_end hdot hdots (h.noLinks name)] at hwalk
  split at hwalk
  · cases hwalk
  · rename_i hlen
    refine ⟨⟨hdot, hnul, Nat.not_lt.mp hlen, ?_⟩, hpath⟩
    intro hdir
    rw [if_neg (by rw [hdir]; simp)] at hwalk
    have hfile := hfound _ (Except.ok.inj hwalk).symm
    exact isDir_eq_false_iff.mp hfile hdir

/-- Writing a member leaves the directory a destination, for the members after it. -/
theorem Target.put (h : Target t dir there) (hs : Storable t dir there name) (data : Bytes) :
    Target (t.put (there ++ [name]) (.file data)) dir there where
  ne_nil := h.ne_nil
  leads := by
    have hleads := h.leads.put (e := .file data) (isDir_eq_false_iff.mpr hs.1.2.2.2)
    unfold Tree.start at hleads ⊢
    rw [Tree.put_cwd]
    exact hleads
  noNul := h.noNul
  noLinks := by
    intro name' target
    by_cases hname : there ++ [name'] = there ++ [name]
    · rw [hname, Tree.get?_put_self _ (by simp)]
      simp
    · rw [Tree.get?_put_ne _ hname]
      exact h.noLinks name' target

theorem Storable.put_iff (hs : Storable t dir there name) {name' : Bytes} :
    Storable (t.put (there ++ [name]) (.file data)) dir there name' ↔ Storable t dir there name' := by
  have hget : (t.put (there ++ [name]) (.file data)).get? (there ++ [name']) = some .dir ↔
      t.get? (there ++ [name']) = some .dir := by
    by_cases hname : there ++ [name'] = there ++ [name]
    · rw [hname, Tree.get?_put_self _ (by simp)]
      simp [hs.1.2.2.2]
    · rw [Tree.get?_put_ne _ hname]
  unfold Storable CanHold
  rw [ne_eq, ne_eq, ne_eq, hget]

/-! ## Writing all members -/

/-- How many members come before the first one that is not a plain name, repeats an earlier name, or
cannot be stored. -/
def leadingCount (storable : Bytes → Bool) (earlier : List Bytes) : List ArchiveMember → Nat
  | [] => 0
  | m :: ms =>
    if checkName m.name = .ok () ∧ m.name ∉ earlier ∧ storable m.name = true then
      leadingCount storable (m.name :: earlier) ms + 1
    else 0

/-- None of the leading members repeats an earlier name. -/
theorem not_mem_of_leading {storable : Bytes → Bool} {earlier : List Bytes}
    {ms : List ArchiveMember} {m : ArchiveMember}
    (h : m ∈ ms.take (leadingCount storable earlier ms)) : m.name ∉ earlier := by
  induction ms generalizing earlier with
  | nil => simp at h
  | cons x ms ih =>
    unfold leadingCount at h
    split at h
    · rename_i hx
      rw [List.take_succ_cons] at h
      rcases List.mem_cons.mp h with rfl | h
      · exact hx.2.1
      · exact fun hmem => ih h (List.mem_cons_of_mem _ hmem)
    · simp at h

/-- What an extraction has done after its first `k` members. -/
structure Wrote (t : Tree) (there : Location) (ms : List ArchiveMember) (k : Nat) (r : Outcome) :
    Prop where
  stored : ∀ m ∈ ms.take k, r.tree.get? (there ++ [m.name]) = some (.file m.data)
  unchanged : ∀ l, (∀ m ∈ ms.take k, l ≠ there ++ [m.name]) → r.tree.get? l = t.get? l
  cwd : r.tree.cwd = t.cwd
  fault_eq_none : r.fault = none ↔ k = ms.length
  fault : ∀ e, r.fault = some e → e.isKind .discovery = true ∧ e.exitCode = .discoveryError

theorem isKind_discovery (path : Bytes) (cause : Option Fault) :
    (Fault.discovery path cause).isKind .discovery = true ∧
      (Fault.discovery path cause).exitCode = .discoveryError := by
  cases cause <;> exact ⟨rfl, rfl⟩

/-- An extraction that ends at its first member has done nothing. -/
theorem wrote_nothing {m : ArchiveMember} {ms : List ArchiveMember} (cause : Option Fault) :
    Wrote t there (m :: ms) 0 ⟨t, some (.discovery dir cause)⟩ where
  stored := by simp
  unchanged := fun _ _ => rfl
  cwd := rfl
  fault_eq_none := by simp
  fault := by
    intro e he
    cases he
    exact isKind_discovery dir cause

/-- One more member in front. -/
theorem Wrote.cons {m : ArchiveMember} {ms : List ArchiveMember} {k : Nat} {r : Outcome}
    (h : Wrote (t.put (there ++ [m.name]) (.file m.data)) there ms k r)
    (hfresh : ∀ x ∈ ms.take k, m.name ≠ x.name) : Wrote t there (m :: ms) (k + 1) r where
  stored := by
    intro x hx
    rw [List.take_succ_cons] at hx
    rcases List.mem_cons.mp hx with rfl | hx
    · rw [h.unchanged _ fun y hy heq => hfresh y hy (by simpa using heq)]
      exact Tree.get?_put_self _ (by simp) _
    · exact h.stored x hx
  unchanged := by
    intro l hl
    rw [List.take_succ_cons] at hl
    rw [h.unchanged l fun x hx => hl x (List.mem_cons_of_mem _ hx)]
    exact Tree.get?_put_ne _ (hl m List.mem_cons_self) _
  cwd := h.cwd.trans (Tree.put_cwd _ _ _)
  fault_eq_none := by rw [h.fault_eq_none, List.length_cons]; omega
  fault := h.fault

theorem writeMembers_wrote (h : Target t dir there) (seen : List Bytes) (ms : List ArchiveMember) :
    Wrote t there ms (leadingCount (fun name => decide (Storable t dir there name)) seen ms)
      (writeMembers t dir seen ms) := by
  induction ms generalizing t seen with
  | nil => exact ⟨by simp, fun _ _ => rfl, rfl, by simp [writeMembers, leadingCount], nofun⟩
  | cons m ms ih =>
    by_cases hm : checkName m.name = .ok () ∧ m.name ∉ seen ∧
        decide (Storable t dir there m.name) = true
    · rw [leadingCount, if_pos hm]
      obtain ⟨hcheck, hseen, hs⟩ := hm
      have hs : Storable t dir there m.name := of_decide_eq_true hs
      -- The tree is another one for the other members, but the same names can be stored in it.
      have hrest := ih (h.put hs m.data) (m.name :: seen)
      have hsame : (fun name => decide
          (Storable (t.put (there ++ [m.name]) (.file m.data)) dir there name))
          = fun name => decide (Storable t dir there name) := by
        funext name
        exact decide_eq_decide.mpr hs.put_iff
      rw [hsame] at hrest
      rw [writeMembers, hcheck]
      simp only [List.contains_eq_mem, decide_eq_true_eq, if_neg hseen, h.writeFile hcheck hs]
      exact hrest.cons (fun x hx heq => not_mem_of_leading hx (heq ▸ List.mem_cons_self))
    · -- Each of the checks ends the extraction before anything is written of the member.
      rw [leadingCount, if_neg hm, writeMembers]
      split
      · exact wrote_nothing _
      · rename_i hcheck
        split
        · exact wrote_nothing _
        · rename_i hseen
          split
          · exact wrote_nothing _
          · rename_i t' hw
            refine absurd ⟨hcheck, by simpa using hseen, ?_⟩ hm
            exact decide_eq_true (h.storable hcheck hw)

theorem target_of_locate (hlocate : t.locate dir = .ok there) (hdir : t.isDir there = true)
    (hpath : t.MeetsNoLink (t.start dir) (Tree.pathNames dir))
    (hentries : ∀ name target, t.get? (there ++ [name]) ≠ some (.link target)) :
    Target t dir there := by
  obtain ⟨hne, hnul, -, -⟩ := Tree.walk_eq_ok (Tree.locate_eq_ok hlocate)
  exact ⟨hne, (Tree.leads_of_locate hlocate hdir hpath).cleanElements, hnul, hentries⟩

/-- Extraction into a directory that is reached without links and holds none writes the leading members
that can be stored there, each under its name, and changes nothing else in the whole tree. It ends
without a fault iff these are all members, and otherwise with a discovery fault. -/
theorem write_confined (members : List ArchiveMember) (hlocate : t.locate dir = .ok there)
    (hdir : t.isDir there = true) (hpath : t.MeetsNoLink (t.start dir) (Tree.pathNames dir))
    (hentries : ∀ name target, t.get? (there ++ [name]) ≠ some (.link target)) :
    let k := leadingCount (fun name => decide (Storable t dir there name)) [] members
    let r := write t members dir
    (∀ m ∈ members.take k, r.tree.get? (there ++ [m.name]) = some (.file m.data)) ∧
    (∀ l, (∀ m ∈ members.take k, l ≠ there ++ [m.name]) → r.tree.get? l = t.get? l) ∧
    r.tree.cwd = t.cwd ∧
    (r.fault = none ↔ k = members.length) ∧
    (k ≠ members.length →
      ∃ e, r.fault = some e ∧ e.isKind .discovery = true ∧ e.exitCode = .discoveryError) := by
  intro k r
  have htarget := target_of_locate hlocate hdir hpath hentries
  have hwrote : Wrote t there members k r := writeMembers_wrote htarget [] members
  refine ⟨hwrote.stored, hwrote.unchanged, hwrote.cwd, hwrote.fault_eq_none, ?_⟩
  intro hk
  obtain ⟨e, he⟩ : ∃ e, r.fault = some e :=
    Option.ne_none_iff_exists'.mp fun hnone => hk (hwrote.fault_eq_none.mp hnone)
  exact ⟨e, he, hwrote.fault e he⟩

/-- A directory with a file and a subdirectory in it. -/
def smallTree : Tree :=
  { cwd := []
    entries := [(["d"], .dir), (["d", "old"], .file "1"), (["d", "sub"], .dir)] }

/-- Members of which the third cannot take the place of the subdirectory. -/
def smallMembers : List ArchiveMember := [⟨"old", "2"⟩, ⟨"new", "3"⟩, ⟨"sub", "4"⟩, ⟨"late", "5"⟩]

/-- The third member ends the extraction, so the fourth is not written. -/
theorem write_confined_smallTree :
    smallTree.locate "./d/" = .ok ["d"] ∧
    (write smallTree smallMembers "./d/").tree.get? ["d", "new"] = some (.file "3") ∧
    (write smallTree smallMembers "./d/").tree.get? ["d", "late"] = none := by
  have hlinks : ∀ p ∈ smallTree.entries, ∀ target, p.2 ≠ .link target := by
    intro p hp target
    simp only [smallTree, List.mem_cons, List.not_mem_nil, or_false] at hp
    rcases hp with rfl | rfl | rfl <;> nofun
  have hlocate : smallTree.locate "./d/" = .ok ["d"] := rfl
  obtain ⟨hstored, hframe, -⟩ := write_confined smallMembers hlocate rfl
    (Tree.meetsNoLink hlinks _ _) (fun name target => Tree.get?_ne_link hlinks _ target)
  exact ⟨hlocate, hstored ⟨"new", "3"⟩ (by decide), hframe ["d", "late"] (by decide)⟩

/-! ## A path that is too long -/

/-- The names of sixteen directories, each in the one before. -/
def longNames : List Bytes := List.replicate 16 (List.replicate 240 0x64)

/-- The path of the innermost one. It is too long to be evaluated byte by byte. -/
@[irreducible] def longDir : Bytes := Bytes.join [Path.slash] longNames

/-- Nothing but these directories. -/
def longTree : Tree :=
  { cwd := []
    entries := (List.range 17).map fun k => (longNames.take k, .dir) }

/-- A member whose name alone is not too long. -/
def longMember : ArchiveMember := ⟨List.replicate 250 0x61, "x\n"⟩

theorem longTree_entries : ∀ p ∈ longTree.entries, p.2 = .dir := by
  intro p hp
  obtain ⟨k, -, rfl⟩ := List.mem_map.mp hp
  rfl

theorem longNames_eq {e : Bytes} (h : e ∈ longNames) : e = List.replicate 240 0x64 :=
  List.eq_of_mem_replicate h

theorem longNames_plain : ∀ e ∈ longNames, e ≠ [] ∧ e ≠ utf8 "." ∧ e ≠ utf8 ".." := by
  intro e he
  rw [longNames_eq he]
  decide

theorem longNames_slash : ∀ e ∈ longNames, Path.slash ∉ e := by
  intro e he
  rw [longNames_eq he]
  decide

theorem longDir_length : longDir.length = 3855 := by
  have hjoin := Bytes.length_join_replicate Path.slash (List.replicate 240 0x64) 15
  simp only [List.length_replicate, Nat.reduceAdd, Nat.reduceMul] at hjoin
  rw [longDir, longNames]
  omega

theorem longDir_leads :
    longTree.Leads (longTree.start longDir) (Tree.pathNames longDir) longNames := by
  have hstart : longTree.start longDir = [] := by
    unfold Tree.start
    split <;> rfl
  rw [hstart, longDir, (Tree.pathNames_join_elements (by decide) fun e he =>
    ⟨(longNames_plain e he).1, longNames_slash e he⟩).1]
  refine Tree.leads_of_take (fun k hk => ?_) fun e he => ?_
  · refine Tree.isDir_of_mem longTree_entries (List.mem_map.mpr ?_)
    refine ⟨_, List.mem_map_of_mem (List.mem_range.mpr ?_), rfl⟩
    rw [longNames, List.length_replicate] at hk
    exact Nat.lt_succ_of_le hk
  · refine ⟨(longNames_plain e he).2.1, (longNames_plain e he).2.2, ?_⟩
    rw [longNames_eq he, List.length_replicate]
    decide

theorem longDir_ne_nil : longDir ≠ [] := by
  intro hnil
  have hlen := longDir_length
  rw [hnil] at hlen
  cases hlen

theorem longDir_noNul : 0 ∉ longDir := by
  intro hmem
  rw [longDir] at hmem
  rcases Bytes.mem_join_singleton hmem with hmem | ⟨e, he, hmem⟩
  · exact absurd hmem (by decide)
  · rw [longNames_eq he] at hmem
    exact absurd (List.eq_of_mem_replicate hmem) (by decide)

theorem longDir_locate {t : Tree} (h : t.Leads (t.start longDir) (Tree.pathNames longDir) longNames) :
    t.locate longDir = .ok longNames := by
  have hwalk : t.walk longDir = .ok (.found longNames) := by
    rw [Tree.walk, if_neg (by simpa using longDir_ne_nil), if_neg (by simpa using longDir_noNul),
      if_neg (by simp [longDir_length, Tree.maxPath])]
    exact Tree.walkFrom_eq_found _ h
  rw [Tree.locate, hwalk]

/-- The joined path has at least the bytes of both parts and a separator. -/
theorem lt_length_join_longDir (name : Bytes) (hslash : Path.slash ∉ name) (hne : name ≠ [])
    (hdot : name ≠ utf8 ".") (hdots : name ≠ utf8 "..") :
    3855 + name.length < (Path.join longDir name).length := by
  have helems : Path.cleanElements (longDir ++ Path.slash :: name) = longNames ++ [name] := by
    rw [Path.cleanElements_join longDir_ne_nil hslash hne hdot hdots, longDir,
      Path.cleanElements_join_elements (by decide) longNames_slash longNames_plain]
  have hbody : (Bytes.join [Path.slash] (longNames ++ [name])).length = 3856 + name.length := by
    rw [Bytes.join_append_singleton _ _ (by decide), ← longDir, List.length_append,
      List.length_append, longDir_length, List.length_singleton]
  rw [Path.join_eq_clean longDir_ne_nil, Path.clean_eq, helems]
  split
  · rw [List.length_cons]
    omega
  · rw [if_neg (by simp)]
    omega

/-- Joined to the name of the member, the path has 4106 bytes. -/
theorem longMember_not_storable : ¬Storable longTree longDir longNames longMember.name := by
  rintro ⟨-, hlen⟩
  have hlong := lt_length_join_longDir longMember.name (by decide) (by decide) (by decide)
    (by decide)
  have hname : longMember.name.length = 250 := List.length_replicate
  rw [Tree.maxPath] at hlen
  omega

/-- No name on the path is too long, yet the whole path is: nothing is written of a member that the
directory could hold. -/
theorem write_fails_on_long_path :
    longTree.locate longDir = .ok longNames ∧
    longTree.isDir longNames = true ∧
    longTree.MeetsNoLink (longTree.start longDir) (Tree.pathNames longDir) ∧
    (∀ name target, longTree.get? (longNames ++ [name]) ≠ some (.link target)) ∧
    leadingCount (fun name => decide (CanHold longTree longNames name)) [] [longMember] = 1 ∧
    (write longTree [longMember] longDir).fault ≠ none := by
  have hlinks : ∀ p ∈ longTree.entries, ∀ target, p.2 ≠ .link target := by
    intro p hp target
    rw [longTree_entries p hp]
    nofun
  have hdir := longDir_leads.isDir_end
  have hpath := Tree.meetsNoLink hlinks (longTree.start longDir) (Tree.pathNames longDir)
  have hentries := fun name => Tree.get?_ne_link hlinks (longNames ++ [name])
  have hcheck : checkName longMember.name = .ok () := by decide +kernel
  have hholds : CanHold longTree longNames longMember.name := by
    refine ⟨by decide, by decide, by decide +kernel, fun hget => ?_⟩
    rcases Tree.exists_of_get? hget with ⟨hnil, -⟩ | hmem
    · exact absurd hnil (by simp)
    · obtain ⟨k, -, hk⟩ := List.mem_map.mp hmem
      have hlen := congrArg (·.1.length) hk
      simp only [List.length_take, List.length_append, List.length_singleton] at hlen
      omega
  have hwrote := writeMembers_wrote (target_of_locate (longDir_locate longDir_leads) hdir hpath hentries) []
    [longMember]
  refine ⟨longDir_locate longDir_leads, hdir, hpath, hentries, ?_, ?_⟩
  · rw [leadingCount, if_pos ⟨hcheck, by simp, decide_eq_true hholds⟩]
    rfl
  · intro hnone
    have hcount := hwrote.fault_eq_none.mp hnone
    rw [leadingCount, if_neg] at hcount
    · cases hcount
    · rintro ⟨-, -, hs⟩
      exact longMember_not_storable (of_decide_eq_true hs)

end Golden.Archive
