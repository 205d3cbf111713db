import Golden.Proofs.Files.Listing
import Golden.Proofs.Fixture.Grouping

/-!
# When discovery fails

Discovery reads contents while it groups files, so it can fail in the middle. Whether and how it fails
can be told without grouping anything: by the first entry of the listing whose content is needed and
cannot be read (`faultOf?`, `resolveListing_eq_error_iff`). A listing is in the order of its names, so
this is the one with the smallest name (`resolve_unreadable`).

Of an entry whose content is not needed only the name counts: directories, names without a role, programs,
and inputs that are not loaded never make discovery fail (`faultOf?_eq_none`).
-/

namespace Golden

/-! ## The kind of a fault -/

theorem Fault.exitCode_of_kind? {f : Fault} {k : FaultKind} (h : f.kind? = some k) :
    f.exitCode = k.exitCode := by
  rw [exitCode, h]

theorem Fault.kind?_discovery (path : Bytes) (cause : Option Fault) :
    (Fault.discovery path cause).kind? = some .discovery := by
  cases cause <;> rfl

/-- The fault of a directory that cannot be listed. -/
def unlisted (dir : Bytes) (e : FileError) : Fault := .discovery dir (some e.fault)

/-- The fault of a file of a fixture that cannot be read. -/
def unreadable (path : Bytes) (e : FileError) : Fault :=
  .discovery path (some (.within "read fixture file" e.fault))

/-! ## Reading while grouping -/

/-- Is the content of files of the role read? -/
def Role.IsRead (loadInput : Bool) (role : Role) : Prop :=
  role = .expected ∨ role = .input ∧ loadInput = true

instance (loadInput : Bool) (role : Role) : Decidable (role.IsRead loadInput) :=
  inferInstanceAs (Decidable (_ ∨ _))

/-- What is wrong with the content of a file, if it is read. -/
def Member.fault? (t : Tree) (loadInput : Bool) (m : Member) : Option Fault :=
  if m.role.IsRead loadInput then
    match t.read m.path with
    | .ok _ => none
    | .error e => some (unreadable m.path e)
  else none

section Grouping

variable {t : Tree} {loadInput : Bool} {s : FixtureSet} {m : Member} {ms : List Member} {f : Fault}

theorem addMember_eq_error_iff :
    addMember t loadInput s m = .error f ↔ m.fault? t loadInput = some f := by
  unfold addMember readMember Member.fault? Role.IsRead unreadable
  cases m.role with
  | program => simp
  | input => cases loadInput <;> cases t.read m.path <;> simp
  | expected => cases t.read m.path <;> simp

/-- Grouping fails with the fault of the first file that has one, whatever has been grouped before. -/
theorem addMembers_eq_error_iff :
    addMembers t loadInput s ms = .error f ↔ ms.findSome? (Member.fault? t loadInput) = some f := by
  induction ms generalizing s with
  | nil => simp [addMembers]
  | cons m ms ih =>
    rw [addMembers, List.findSome?_cons]
    cases hm : addMember t loadInput s m with
    | error e =>
      rw [addMember_eq_error_iff.mp hm]
      simp
    | ok s' =>
      have hnone : m.fault? t loadInput = none := by
        refine Option.eq_none_iff_forall_ne_some.mpr fun e he => ?_
        rw [addMember_eq_error_iff.mpr he] at hm
        cases hm
      rw [hnone]
      exact ih

end Grouping

/-! ## Entries of a listing -/

/-- Is the content of an entry needed? -/
def Needed (o : ResolveOptions) (entry : Bytes × Entry) : Prop :=
  ∃ id role, Belongs o entry id role ∧ role.IsRead o.loadInput

/-- Is only the name of an entry looked at? It is a directory, or its name has no role, or it is a program,
or an input that is not loaded. -/
def NameOnly (o : ResolveOptions) (entry : Bytes × Entry) : Prop :=
  entry.2 = .dir ∨ classify? entry.1 o.extension = none ∨
    (∃ id, classify? entry.1 o.extension = some (id, .program)) ∨
    (∃ id, classify? entry.1 o.extension = some (id, .input)) ∧ o.loadInput = false

/-- The fault that an entry leads to. -/
def faultOf? (t : Tree) (dir : Bytes) (o : ResolveOptions) (entry : Bytes × Entry) : Option Fault :=
  if entry.2 = .dir then none
  else (classify? entry.1 o.extension).bind fun (id, role) =>
    Member.fault? t o.loadInput ⟨id, role, Path.join dir entry.1⟩

/-- An entry whose content is needed and cannot be read, the first such by name. -/
structure IsFirstUnreadable (t : Tree) (dir : Bytes) (o : ResolveOptions)
    (listing : List (Bytes × Entry)) (entry : Bytes × Entry) (e : FileError) : Prop where
  listed : entry ∈ listing
  needed : Needed o entry
  read : t.read (Path.join dir entry.1) = .error e
  first : ∀ entry' ∈ listing, Needed o entry' →
    (∃ e', t.read (Path.join dir entry'.1) = .error e') → Bytes.le entry.1 entry'.1 = true

section Listing

variable {t : Tree} {dir : Bytes} {o : ResolveOptions} {listing before after : List (Bytes × Entry)}
  {entry : Bytes × Entry} {f : Fault} {e : FileError}

theorem not_needed_iff : ¬Needed o entry ↔ NameOnly o entry := by
  unfold Needed NameOnly Belongs Role.IsRead
  by_cases hdir : entry.2 = .dir
  · simp [hdir]
  · cases hclass : classify? entry.1 o.extension with
    | none => simp
    | some slot =>
      obtain ⟨id, role⟩ := slot
      cases role <;> simp [hdir]

theorem faultOf?_eq_some_iff :
    faultOf? t dir o entry = some f ↔
      Needed o entry ∧ ∃ e, t.read (Path.join dir entry.1) = .error e ∧
        f = unreadable (Path.join dir entry.1) e := by
  unfold faultOf? Needed Belongs Member.fault?
  by_cases hdir : entry.2 = .dir
  · simp [hdir]
  · cases hclass : classify? entry.1 o.extension with
    | none => simp
    | some slot =>
      obtain ⟨id, role⟩ := slot
      by_cases hrole : role.IsRead o.loadInput
      · cases hread : t.read (Path.join dir entry.1) <;> simp [hdir, hrole, hread, eq_comm]
      · simp [hdir, hrole]

/-- An entry of which only the name is looked at leads to no fault, whether or not it can be read. -/
theorem faultOf?_eq_none (h : NameOnly o entry) : faultOf? t dir o entry = none := by
  refine Option.eq_none_iff_forall_ne_some.mpr fun f hf => ?_
  exact not_needed_iff.mpr h (faultOf?_eq_some_iff.mp hf).1

theorem findSome?_membersOf :
    (membersOf dir o.extension listing).findSome? (Member.fault? t o.loadInput)
      = listing.findSome? (faultOf? t dir o) := by
  induction listing with
  | nil => rfl
  | cons entry listing ih =>
    obtain ⟨name, e⟩ := entry
    unfold membersOf at ih ⊢
    rw [List.filterMap_cons, List.findSome?_cons, faultOf?]
    by_cases hdir : e = .dir
    · simpa [hdir] using ih
    · cases hclass : classify? name o.extension with
      | none => simpa [hdir, hclass] using ih
      | some slot => simp [hdir, hclass, List.findSome?_cons, ih]

/-- Discovery on a listing fails with the fault of the first entry that has one. -/
theorem resolveListing_eq_error_iff :
    resolveListing t dir o listing = .error f ↔ listing.findSome? (faultOf? t dir o) = some f := by
  rw [resolveListing, addMembers_eq_error_iff, findSome?_membersOf]

/-- Leaving out an entry of which only the name is looked at changes nothing about whether and how
discovery fails. -/
theorem resolveListing_eq_error_of_nameOnly (h : NameOnly o entry) :
    resolveListing t dir o (before ++ entry :: after) = .error f ↔
      resolveListing t dir o (before ++ after) = .error f := by
  rw [resolveListing_eq_error_iff, resolveListing_eq_error_iff, List.findSome?_append,
    List.findSome?_append, List.findSome?_cons, faultOf?_eq_none h]

theorem resolve_eq_error_iff :
    resolve t dir o = .error f ↔
      (∃ e, t.list dir = .error e ∧ f = unlisted dir e) ∨
      ∃ listing, t.list dir = .ok listing ∧ resolveListing t dir o listing = .error f := by
  unfold resolve unlisted
  cases t.list dir <;> simp [eq_comm]

/-- Every fault of discovery is of its kind. -/
theorem resolve_kind? (h : resolve t dir o = .error f) : f.kind? = some .discovery := by
  rcases resolve_eq_error_iff.mp h with ⟨e, -, rfl⟩ | ⟨listing, -, hlisting⟩
  · exact Fault.kind?_discovery ..
  · obtain ⟨entry, -, hentry⟩ := List.exists_of_findSome?_eq_some (resolveListing_eq_error_iff.mp hlisting)
    obtain ⟨-, e, -, rfl⟩ := faultOf?_eq_some_iff.mp hentry
    exact Fault.kind?_discovery ..

theorem exists_findSome?_faultOf? (hmem : entry ∈ listing) (hneeded : Needed o entry)
    (hread : t.read (Path.join dir entry.1) = .error e) :
    ∃ f, listing.findSome? (faultOf? t dir o) = some f := by
  refine Option.isSome_iff_exists.mp (List.findSome?_isSome_iff.mpr ⟨entry, hmem, ?_⟩)
  rw [faultOf?_eq_some_iff.mpr ⟨hneeded, e, hread, rfl⟩]
  rfl

/-- In a listing that is in the order of its names the first entry with a fault is the one with the
smallest name. Two entries with that name would have the same path, and so the same fault. -/
theorem findSome?_eq_some_iff_first (hsorted : listing.Pairwise fun a b => Bytes.le a.1 b.1 = true) :
    listing.findSome? (faultOf? t dir o) = some f ↔
      ∃ entry e, IsFirstUnreadable t dir o listing entry e ∧
        f = unreadable (Path.join dir entry.1) e := by
  have hfirst {f : Fault} (h : listing.findSome? (faultOf? t dir o) = some f) :
      ∃ entry e, IsFirstUnreadable t dir o listing entry e ∧
        f = unreadable (Path.join dir entry.1) e := by
    obtain ⟨before, entry, after, rfl, hentry, hbefore⟩ := List.findSome?_eq_some_iff.mp h
    obtain ⟨hneeded, e, hread, rfl⟩ := faultOf?_eq_some_iff.mp hentry
    refine ⟨entry, e, ⟨by simp, hneeded, hread, ?_⟩, rfl⟩
    intro entry' hmem hneeded' hread'
    obtain ⟨e', he'⟩ := hread'
    -- what is listed in front has no fault, and what is listed behind has no smaller name
    rcases List.mem_append.mp hmem with hmem | hmem
    · have hfault := faultOf?_eq_some_iff.mpr ⟨hneeded', e', he', rfl⟩
      rw [hbefore entry' hmem] at hfault
      cases hfault
    · rcases List.mem_cons.mp hmem with rfl | hmem
      · exact Bytes.le_refl _
      · exact List.rel_of_pairwise_cons (List.pairwise_append.mp hsorted).2.1 hmem
  refine ⟨hfirst, ?_⟩
  rintro ⟨entry, e, hentry, rfl⟩
  obtain ⟨f, hf⟩ := exists_findSome?_faultOf? hentry.listed hentry.needed hentry.read
  obtain ⟨entry', e', hentry', rfl⟩ := hfirst hf
  -- the entry that the search finds has the smallest name as well, and so the same path
  have hname : entry'.1 = entry.1 :=
    Bytes.le_antisymm (hentry'.first entry hentry.listed hentry.needed ⟨e, hentry.read⟩)
      (hentry.first entry' hentry'.listed hentry'.needed ⟨e', hentry'.read⟩)
  have herror : e' = e := by
    have hread := hentry'.read
    rw [hname, hentry.read] at hread
    exact (Except.error.inj hread).symm
  rw [hf, hname, herror]

/-- Discovery fails because of the directory, or because of the first entry by name that is unreadable and
needed. -/
theorem resolve_eq_error_iff_first :
    resolve t dir o = .error f ↔
      (∃ e, t.list dir = .error e ∧ f = unlisted dir e) ∨
        ∃ listing entry e, t.list dir = .ok listing ∧ IsFirstUnreadable t dir o listing entry e ∧
          f = unreadable (Path.join dir entry.1) e := by
  rw [resolve_eq_error_iff]
  refine or_congr_right (exists_congr fun listing => ?_)
  constructor
  · rintro ⟨hlist, hfault⟩
    have hfirst := resolveListing_eq_error_iff.mp hfault
    obtain ⟨entry, e, hentry, hf⟩ := (findSome?_eq_some_iff_first (Tree.list_pairwise hlist)).mp hfirst
    exact ⟨entry, e, hlist, hentry, hf⟩
  · rintro ⟨entry, e, hlist, hentry, hf⟩
    have hfirst := (findSome?_eq_some_iff_first (Tree.list_pairwise hlist)).mpr ⟨entry, e, hentry, hf⟩
    exact ⟨hlist, resolveListing_eq_error_iff.mpr hfirst⟩

theorem exists_resolve_eq_error_iff :
    (∃ f, resolve t dir o = .error f) ↔
      (∃ e, t.list dir = .error e) ∨
        ∃ listing, t.list dir = .ok listing ∧ ∃ entry ∈ listing, Needed o entry ∧
          ∃ e, t.read (Path.join dir entry.1) = .error e := by
  constructor
  · rintro ⟨f, hf⟩
    rcases resolve_eq_error_iff_first.mp hf with ⟨e, he, -⟩ | ⟨listing, entry, e, hlist, hentry, -⟩
    · exact .inl ⟨e, he⟩
    · exact .inr ⟨listing, hlist, entry, hentry.listed, hentry.needed, e, hentry.read⟩
  · rintro (⟨e, he⟩ | ⟨listing, hlist, entry, hmem, hneeded, e, hread⟩)
    · exact ⟨_, resolve_eq_error_iff.mpr (.inl ⟨e, he, rfl⟩)⟩
    · obtain ⟨f, hf⟩ := exists_findSome?_faultOf? hmem hneeded hread
      exact ⟨f, resolve_eq_error_iff.mpr (.inr ⟨listing, hlist, resolveListing_eq_error_iff.mpr hf⟩)⟩

end Listing

/-- Discovery fails iff the directory cannot be listed, or the content of an entry is needed and cannot be
read: an expected output, or an input that is to be loaded. The fault is that of the directory or, where
that can be listed, of the first such entry by name; it is always of the kind that ends an invocation with
exit code three, and there is no set with it. Entries of which only the name is looked at have no part in
this, readable or not. -/
structure FailsIfUnreadable (t : Tree) (dir : Bytes) (o : ResolveOptions) : Prop where
  fails_iff : (∃ f, resolve t dir o = .error f) ↔
    (∃ e, t.list dir = .error e) ∨
      ∃ listing, t.list dir = .ok listing ∧ ∃ entry ∈ listing, Needed o entry ∧
        ∃ e, t.read (Path.join dir entry.1) = .error e
  fault_iff : ∀ f, resolve t dir o = .error f ↔
    (∃ e, t.list dir = .error e ∧ f = unlisted dir e) ∨
      ∃ listing entry e, t.list dir = .ok listing ∧ IsFirstUnreadable t dir o listing entry e ∧
        f = unreadable (Path.join dir entry.1) e
  ends : ∀ f, resolve t dir o = .error f →
    f.kind? = some .discovery ∧ f.exitCode.code = 3 ∧ ∀ s, resolve t dir o ≠ .ok s
  nameOnly_iff : ∀ entry, NameOnly o entry ↔ ¬Needed o entry
  nameOnly : ∀ before entry after, t.list dir = .ok (before ++ entry :: after) → NameOnly o entry →
    ∀ f, resolve t dir o = .error f ↔ resolveListing t dir o (before ++ after) = .error f

/-- Discovery fails for what it needs and cannot read, and for nothing else. -/
theorem resolve_unreadable (t : Tree) (dir : Bytes) (o : ResolveOptions) : FailsIfUnreadable t dir o := by
  constructor
  case fails_iff => exact exists_resolve_eq_error_iff
  case fault_iff => exact fun f => resolve_eq_error_iff_first
  case ends =>
    intro f hf
    refine ⟨resolve_kind? hf, ?_, ?_⟩
    · rw [Fault.exitCode_of_kind? (resolve_kind? hf)]
      rfl
    · intro s hs
      rw [hf] at hs
      cases hs
  case nameOnly_iff => exact fun entry => not_needed_iff.symm
  case nameOnly =>
    intro before entry after hlist hnameOnly f
    rw [resolve, hlist]
    exact resolveListing_eq_error_of_nameOnly hnameOnly

/-- A suite in which no entry can be read: links that lead nowhere, and an input that is a link to a
directory. -/
def brokenTree : Tree :=
  { cwd := []
    entries := [(["suite"], .dir), (["suite", "a.asm"], .link "gone"), (["suite", "b.in"], .link "."),
      (["suite", "c.out"], .link "gone"), (["suite", "notes"], .link "gone")] }

/-- The expected output is the first content that is needed, the input is where inputs are loaded. -/
example :
    resolve brokenTree "suite" {} = .error (unreadable "suite/c.out" ⟨"open", "suite/c.out", .notFound⟩) ∧
    resolve brokenTree "suite" { loadInput := true }
      = .error (unreadable "suite/b.in" ⟨"read", "suite/b.in", .isDirectory⟩) := by
  have hlocate : brokenTree.locate "suite" = .ok ["suite"] := by decide +kernel
  have hlist := Tree.list_of_locate hlocate (by decide +kernel)
  rw [Tree.children_eq (by decide +kernel)] at hlist
  rw [resolve, resolve, hlist]
  decide +kernel

end Golden
