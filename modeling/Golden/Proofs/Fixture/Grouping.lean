import Golden.Fixture.Resolve
import Golden.Proofs.Files.Clean
import Golden.Proofs.Fixture.Names
import Mathlib.Data.List.Nodup

/-!
# Grouping files into fixtures

Discovery puts the files of a listing into the slots of fixtures one after the other. The result can
be read off the listing without going through it in order (`assemble`): a slot is filled iff some file
belongs to it, and by which file is determined by the identifier and the role. So nothing is lost,
nothing is overwritten, and the order of the listing does not matter (`resolveListing_grouping`).

The invariant of the loop is `Assembled`; it speaks of a set through `FixtureSet.get?` alone.
-/

namespace Golden

/-! ## Sets as maps from identifiers -/

theorem Bytes.lt_of_not_lt {a b : Bytes} (h : ¬a < b) (hne : b ≠ a) : b < a :=
  (List.le_iff_lt_or_eq.mp (List.not_lt.mp h)).resolve_right hne

namespace FixtureSet

/-- The identifiers ascend strictly. -/
def Ascending (s : FixtureSet) : Prop := s.fixtures.Pairwise fun f g => f.id < g.id

theorem ascending_empty : empty.Ascending := List.Pairwise.nil

section Alter

variable {id : Bytes} {change : Fixture → Fixture} (hid : ∀ f, (change f).id = f.id)

include hid

theorem mem_alterList {l : List Fixture} {g : Fixture} (h : g ∈ alterList id change l) :
    g ∈ l ∨ g.id = id := by
  induction l with
  | nil =>
    rw [List.mem_singleton.mp h]
    exact Or.inr (hid _)
  | cons f l ih =>
    unfold alterList at h
    split at h
    · rename_i hf
      rcases List.mem_cons.mp h with rfl | h
      · exact Or.inr ((hid f).trans hf)
      · exact Or.inl (List.mem_cons_of_mem _ h)
    · split at h
      · rcases List.mem_cons.mp h with rfl | h
        · exact Or.inr (hid _)
        · exact Or.inl h
      · rcases List.mem_cons.mp h with rfl | h
        · exact Or.inl List.mem_cons_self
        · exact (ih h).imp_left (List.mem_cons_of_mem _)

theorem pairwise_alterList {l : List Fixture} (h : l.Pairwise fun f g => f.id < g.id) :
    (alterList id change l).Pairwise fun f g => f.id < g.id := by
  induction l with
  | nil => exact List.pairwise_singleton _ _
  | cons f l ih =>
    obtain ⟨hf, hl⟩ := List.pairwise_cons.mp h
    unfold alterList
    split
    · refine List.pairwise_cons.mpr ⟨fun g hg => ?_, hl⟩
      rw [hid f]
      exact hf g hg
    · rename_i hne
      split
      · rename_i hlt
        refine List.pairwise_cons.mpr ⟨fun g hg => ?_, h⟩
        rw [hid]
        rcases List.mem_cons.mp hg with rfl | hg
        · exact hlt
        · exact List.lt_trans hlt (hf g hg)
      · rename_i hnlt
        refine List.pairwise_cons.mpr ⟨fun g hg => ?_, ih hl⟩
        rcases mem_alterList hid hg with hg | hg
        · exact hf g hg
        · rw [hg]
          exact Bytes.lt_of_not_lt hnlt hne

theorem find?_alterList_self {l : List Fixture} (h : l.Pairwise fun f g => f.id < g.id) :
    (alterList id change l).find? (·.id = id)
      = some (change ((l.find? (·.id = id)).getD { id })) := by
  induction l with
  | nil => simp [alterList, hid]
  | cons f l ih =>
    obtain ⟨hf, hl⟩ := List.pairwise_cons.mp h
    unfold alterList
    split
    · rename_i hfid
      simp [hid, hfid]
    · rename_i hne
      split
      · rename_i hlt
        -- Everything in the list comes behind the new identifier, so it was not there before.
        have hnone : (f :: l).find? (·.id = id) = none := by
          rw [List.find?_eq_none]
          intro g hg
          rcases List.mem_cons.mp hg with rfl | hg
          · simpa using hne
          · have hgt : id < g.id := List.lt_trans hlt (hf g hg)
            intro heq
            rw [of_decide_eq_true heq] at hgt
            exact List.lt_irrefl _ hgt
        rw [hnone]
        simp [hid]
      · simp [hne, ih hl]

theorem find?_alterList_ne {id' : Bytes} (hne : id' ≠ id) (l : List Fixture) :
    (alterList id change l).find? (·.id = id') = l.find? (·.id = id') := by
  induction l with
  | nil => simp [alterList, hid, Ne.symm hne]
  | cons f l ih =>
    unfold alterList
    split
    · rename_i hf
      have hne' : f.id ≠ id' := fun h => hne (h.symm.trans hf)
      simp [hid, hne']
    · split
      · rw [List.find?_cons_of_neg]
        simp [hid, Ne.symm hne]
      · simp only [List.find?_cons, ih]

end Alter

theorem Ascending.alter {s : FixtureSet} (h : s.Ascending) {id : Bytes} {change : Fixture → Fixture}
    (hid : ∀ f, (change f).id = f.id) : (s.alter id change).Ascending :=
  pairwise_alterList hid h

/-- Altering changes one fixture, an absent one starting out empty. -/
theorem Ascending.get?_alter {s : FixtureSet} (h : s.Ascending) {id : Bytes}
    {change : Fixture → Fixture} (hid : ∀ f, (change f).id = f.id) (id' : Bytes) :
    (s.alter id change).get? id'
      = if id' = id then some (change ((s.get? id).getD { id })) else s.get? id' := by
  split
  · rename_i heq
    rw [heq]
    exact find?_alterList_self hid h
  · rename_i hne
    exact find?_alterList_ne hid hne s.fixtures

theorem mem_ids {s : FixtureSet} {id : Bytes} : id ∈ s.ids ↔ ∃ f ∈ s.fixtures, f.id = id := by
  rw [ids, Bytes.sort, List.mem_mergeSort, List.mem_map]

/-- The identifiers of fixtures that are held in order need no sorting. -/
theorem Ascending.ids_eq_map {s : FixtureSet} (h : s.Ascending) : s.ids = s.fixtures.map Fixture.id :=
  Bytes.sort_of_pairwise (List.pairwise_map.mpr h)

theorem Ascending.nodup_map_id {s : FixtureSet} (h : s.Ascending) :
    (s.fixtures.map Fixture.id).Nodup := by
  refine List.pairwise_map.mpr (h.imp fun {f g} hlt heq => ?_)
  rw [heq] at hlt
  exact List.lt_irrefl _ hlt

theorem Ascending.eq_of_id_eq {s : FixtureSet} (h : s.Ascending) {f g : Fixture}
    (hf : f ∈ s.fixtures) (hg : g ∈ s.fixtures) (hid : f.id = g.id) : f = g :=
  List.inj_on_of_nodup_map h.nodup_map_id hf hg hid

theorem get?_eq_some {s : FixtureSet} {id : Bytes} {f : Fixture} (h : s.get? id = some f) :
    f ∈ s.fixtures ∧ f.id = id := by
  unfold get? at h
  have hid := List.find?_some h
  exact ⟨List.mem_of_find?_eq_some h, of_decide_eq_true hid⟩

theorem Ascending.get?_eq_some_iff {s : FixtureSet} (h : s.Ascending) {id : Bytes} {f : Fixture} :
    s.get? id = some f ↔ f ∈ s.fixtures ∧ f.id = id := by
  refine ⟨get?_eq_some, fun ⟨hf, hid⟩ => ?_⟩
  cases hget : s.get? id with
  | none => exact absurd (decide_eq_true hid) (List.find?_eq_none.mp hget f hf)
  | some g =>
    obtain ⟨hg, hgid⟩ := get?_eq_some hget
    rw [h.eq_of_id_eq hf hg (hid.trans hgid.symm)]

/-- Looking the identifiers up in order gives the fixtures as they are held. -/
theorem Ascending.sorted_eq {s : FixtureSet} (h : s.Ascending) : s.sorted = s.fixtures := by
  have hlookup : ∀ f ∈ s.fixtures, s.get? f.id = some f := fun f hf =>
    h.get?_eq_some_iff.mpr ⟨hf, rfl⟩
  rw [sorted, h.ids_eq_map, List.filterMap_map]
  exact (List.filterMap_congr hlookup).trans List.filterMap_some

/-- Two sets that answer alike are the same. -/
theorem Ascending.eq_of_get? {s s' : FixtureSet} (h : s.Ascending) (h' : s'.Ascending)
    (hget : ∀ id, s.get? id = s'.get? id) : s = s' := by
  have hmem : ∀ f, f ∈ s.fixtures ↔ f ∈ s'.fixtures := by
    intro f
    have hiff : f ∈ s.fixtures ∧ f.id = f.id ↔ f ∈ s'.fixtures ∧ f.id = f.id := by
      rw [← h.get?_eq_some_iff, hget, h'.get?_eq_some_iff]
    simpa using hiff
  -- Both hold the same fixtures, and there is only one order in which identifiers ascend.
  have hperm : s.fixtures.Perm s'.fixtures :=
    (List.perm_ext_iff_of_nodup h.nodup_map_id.of_map h'.nodup_map_id.of_map).mpr hmem
  have heq : s.fixtures = s'.fixtures :=
    hperm.eq_of_pairwise (fun a b _ _ hab hba => absurd hba (List.lt_asymm hab)) h h'
  cases s
  cases s'
  rw [FixtureSet.mk.injEq]
  exact heq

end FixtureSet

/-! ## What the files of a listing make up -/

/-- The content that a path leads to, empty if it cannot be read. -/
def Tree.contentOf (t : Tree) (path : Bytes) : Bytes :=
  match t.read path with
  | .ok data => data
  | .error _ => []

/-- Is there a file for the identifier and the role? -/
def hasMember (ms : List Member) (id : Bytes) (role : Role) : Bool :=
  ms.any fun m => m.id = id && m.role = role

/-- The fixture of an identifier, from the roles there are files for and their paths. -/
def assemble (t : Tree) (loadInput : Bool) (path : Bytes → Role → Bytes) (id : Bytes)
    (has : Role → Bool) : Fixture where
  id := id
  programPath := if has .program then path id .program else []
  inputPath := if has .input then path id .input else []
  input := if has .input && loadInput then t.contentOf (path id .input) else []
  expectedPath := if has .expected then path id .expected else []
  expected := if has .expected then t.contentOf (path id .expected) else []

/-- The set holds what the files make up, and nothing else. -/
structure Assembled (t : Tree) (loadInput : Bool) (path : Bytes → Role → Bytes) (ms : List Member)
    (s : FixtureSet) : Prop where
  ascending : s.Ascending
  get? : ∀ id, s.get? id =
    if ms.any (·.id = id) then some (assemble t loadInput path id (hasMember ms id)) else none

/-- Can the content that the file is needed for be read? -/
def Member.IsReadable (t : Tree) (loadInput : Bool) (m : Member) : Prop :=
  (m.role = .expected ∨ m.role = .input ∧ loadInput = true) → ∃ data, t.read m.path = .ok data

section Assembling

variable {t : Tree} {loadInput : Bool} {path : Bytes → Role → Bytes} {ms : List Member}
  {s s' : FixtureSet} {m : Member}

theorem Assembled.empty : Assembled t loadInput path [] .empty where
  ascending := FixtureSet.ascending_empty
  get? := fun _ => rfl

/-- Whether or not the identifier is new, its fixture is what the files so far make up. -/
theorem Assembled.getD (h : Assembled t loadInput path ms s) (id : Bytes) :
    (s.get? id).getD { id } = assemble t loadInput path id (hasMember ms id) := by
  rw [h.get? id]
  split
  · rfl
  · rename_i hnone
    have hno : hasMember ms id = fun _ => false := by
      funext role
      simp only [hasMember, List.any_eq_false]
      intro m hm
      have := List.any_eq_false.mp (Bool.eq_false_iff.mpr hnone) m hm
      simp_all
    rw [hno]
    rfl

theorem hasMember_append (m : Member) (role : Role) :
    hasMember (ms ++ [m]) m.id role = (hasMember ms m.id role || decide (m.role = role)) := by
  simp [hasMember]

theorem hasMember_append_ne {id : Bytes} (hne : id ≠ m.id) :
    hasMember (ms ++ [m]) id = hasMember ms id := by
  funext role
  simp [hasMember, Ne.symm hne]

/-- Putting a file into its slot is one change of a fixture, and makes it what the files make up. -/
theorem addMember_ok (hpath : m.path = path m.id m.role)
    (h : addMember t loadInput s m = .ok s') :
    ∃ change : Fixture → Fixture, s' = s.alter m.id change ∧ (∀ f, (change f).id = f.id) ∧
      ∀ has, change (assemble t loadInput path m.id has)
        = assemble t loadInput path m.id fun role => has role || decide (m.role = role) := by
  unfold addMember readMember at h
  cases hrole : m.role with
  | program =>
    rw [hrole] at h hpath
    cases h
    exact ⟨_, rfl, fun _ => rfl, fun has => by simp [assemble, hpath]⟩
  | input =>
    rw [hrole] at h hpath
    cases hload : loadInput with
    | true =>
      cases hread : t.read m.path with
      | error e => simp [hload, hread] at h
      | ok data =>
        simp only [hload, hread, if_true] at h
        cases h
        have hdata : t.contentOf (path m.id .input) = data := by
          rw [Tree.contentOf, ← hpath, hread]
        exact ⟨_, rfl, fun _ => rfl, fun has => by simp [assemble, hpath, hdata]⟩
    | false =>
      simp only [hload, Bool.false_eq_true, if_false] at h
      cases h
      exact ⟨_, rfl, fun _ => rfl, fun has => by simp [assemble, hpath]⟩
  | expected =>
    rw [hrole] at h hpath
    cases hread : t.read m.path with
    | error e => simp [hread] at h
    | ok data =>
      simp only [hread] at h
      cases h
      have hdata : t.contentOf (path m.id .expected) = data := by
        rw [Tree.contentOf, ← hpath, hread]
      exact ⟨_, rfl, fun _ => rfl, fun has => by simp [assemble, hpath, hdata]⟩

theorem Assembled.addMember (h : Assembled t loadInput path ms s) (hpath : m.path = path m.id m.role)
    (hadd : Golden.addMember t loadInput s m = .ok s') :
    Assembled t loadInput path (ms ++ [m]) s' := by
  obtain ⟨change, rfl, hid, hchange⟩ := addMember_ok hpath hadd
  refine ⟨h.ascending.alter hid, fun id => ?_⟩
  rw [h.ascending.get?_alter hid]
  split
  · rename_i heq
    subst heq
    have hhas : hasMember (ms ++ [m]) m.id
        = fun role => hasMember ms m.id role || decide (m.role = role) := by
      funext role
      exact hasMember_append m role
    rw [h.getD, hchange, if_pos (by simp), hhas]
  · rename_i hne
    rw [h.get? id, hasMember_append_ne hne]
    simp [Ne.symm hne]

theorem Assembled.addMembers {ms' : List Member} (h : Assembled t loadInput path ms s)
    (hpath : ∀ m ∈ ms', m.path = path m.id m.role)
    (hadd : Golden.addMembers t loadInput s ms' = .ok s') :
    Assembled t loadInput path (ms ++ ms') s' := by
  induction ms' generalizing s ms with
  | nil =>
    cases hadd
    rw [List.append_nil]
    exact h
  | cons m ms' ih =>
    unfold Golden.addMembers at hadd
    cases hm : Golden.addMember t loadInput s m with
    | error e => simp [hm] at hadd
    | ok s₁ =>
      rw [hm] at hadd
      have h₁ := h.addMember (hpath m List.mem_cons_self) hm
      have h₂ := ih h₁ (fun x hx => hpath x (List.mem_cons_of_mem _ hx)) hadd
      rw [List.append_assoc] at h₂
      exact h₂

theorem addMember_isOk_iff :
    (∃ s', addMember t loadInput s m = .ok s') ↔ m.IsReadable t loadInput := by
  unfold addMember readMember Member.IsReadable
  cases m.role with
  | program => simp
  | input => cases loadInput <;> cases t.read m.path <;> simp
  | expected => cases t.read m.path <;> simp

/-- Grouping fails only because of a content that cannot be read. -/
theorem addMembers_isOk_iff :
    (∃ s', addMembers t loadInput s ms = .ok s') ↔ ∀ m ∈ ms, m.IsReadable t loadInput := by
  induction ms generalizing s with
  | nil => simp [addMembers]
  | cons m ms ih =>
    rw [List.forall_mem_cons, ← addMember_isOk_iff (s := s)]
    unfold addMembers
    cases hm : addMember t loadInput s m with
    | error e => simp
    | ok s₁ => simp [ih]

end Assembling

/-! ## Listings -/

/-- Does an entry of a listing belong to a fixture under a role? Directories never do. -/
def Belongs (o : ResolveOptions) (entry : Bytes × Entry) (id : Bytes) (role : Role) : Prop :=
  entry.2 ≠ .dir ∧ classify? entry.1 o.extension = some (id, role)

/-- The path of the file that belongs to an identifier and a role. -/
def slotPath (dir : Bytes) (o : ResolveOptions) (id : Bytes) (role : Role) : Bytes :=
  Path.join dir (id ++ role.extension o.extension)

/-- A set that groups the files of a listing: every file has its slot, and every slot its file. -/
structure IsGrouping (t : Tree) (dir : Bytes) (o : ResolveOptions) (listing : List (Bytes × Entry))
    (s : FixtureSet) : Prop where
  ascending : s.ids.Pairwise (· < ·)
  mem_ids : ∀ id, id ∈ s.ids ↔ ∃ entry ∈ listing, ∃ role, Belongs o entry id role
  sorted : s.sorted.map Fixture.id = s.ids
  held : s.sorted = s.fixtures
  size : s.size = s.ids.length
  get? : ∀ id f, s.get? id = some f ↔ f ∈ s.fixtures ∧ f.id = id
  /-- A slot is filled iff a file belongs to it. -/
  filled : ∀ f ∈ s.fixtures, ∀ role, f.path role ≠ [] ↔ ∃ entry ∈ listing, Belongs o entry f.id role
  /-- No two entries belong to one slot. -/
  unique : ∀ id role, ∀ entry ∈ listing, ∀ entry' ∈ listing,
    Belongs o entry id role → Belongs o entry' id role → entry = entry'
  path : ∀ f ∈ s.fixtures, ∀ role, ∀ entry ∈ listing,
    Belongs o entry f.id role → f.path role = Path.join dir entry.1
  expected : ∀ f ∈ s.fixtures,
    if f.expectedPath = [] then f.expected = [] else t.read f.expectedPath = .ok f.expected
  input : ∀ f ∈ s.fixtures,
    if f.inputPath = [] ∨ o.loadInput = false then f.input = []
    else t.read f.inputPath = .ok f.input

section Listing

variable {t : Tree} {dir : Bytes} {o : ResolveOptions} {listing : List (Bytes × Entry)}
  {s : FixtureSet} {id : Bytes} {role : Role} {entry : Bytes × Entry}

theorem Belongs.name (h : Belongs o entry id role) : entry.1 = id ++ role.extension o.extension :=
  eq_append_of_classify? h.2

theorem Belongs.name_ne_nil (h : Belongs o entry id role) : entry.1 ≠ [] := by
  intro hnil
  have hc := h.2
  rw [hnil, not_classify?_nil] at hc
  cases hc

theorem Belongs.path (h : Belongs o entry id role) (dir : Bytes) :
    slotPath dir o id role = Path.join dir entry.1 := by
  rw [slotPath, h.name]

theorem mem_membersOf {m : Member} :
    m ∈ membersOf dir o.extension listing ↔
      ∃ entry ∈ listing, Belongs o entry m.id m.role ∧ m.path = Path.join dir entry.1 := by
  unfold membersOf Belongs
  rw [List.mem_filterMap]
  constructor
  · rintro ⟨⟨name, e⟩, hmem, hm⟩
    simp only at hm
    split at hm
    · cases hm
    · rename_i hdir
      obtain ⟨⟨i, r⟩, hc, rfl⟩ := Option.map_eq_some_iff.mp hm
      exact ⟨_, hmem, ⟨hdir, hc⟩, rfl⟩
  · rintro ⟨⟨name, e⟩, hmem, ⟨hdir, hc⟩, hpath⟩
    refine ⟨_, hmem, ?_⟩
    simp only [if_neg hdir, hc, Option.map_some, Option.some.injEq]
    cases m
    rw [← hpath]

theorem hasMember_membersOf :
    hasMember (membersOf dir o.extension listing) id role = true ↔
      ∃ entry ∈ listing, Belongs o entry id role := by
  simp only [hasMember, List.any_eq_true, Bool.and_eq_true, decide_eq_true_eq]
  constructor
  · rintro ⟨m, hm, rfl, rfl⟩
    obtain ⟨entry, he, hb, -⟩ := mem_membersOf.mp hm
    exact ⟨entry, he, hb⟩
  · rintro ⟨entry, he, hb⟩
    exact ⟨⟨id, role, Path.join dir entry.1⟩, mem_membersOf.mpr ⟨entry, he, hb, rfl⟩, rfl, rfl⟩

theorem resolve_eq_ok_iff :
    resolve t dir o = .ok s ↔
      ∃ listing, t.list dir = .ok listing ∧ resolveListing t dir o listing = .ok s := by
  unfold resolve
  cases hlist : t.list dir <;> simp

theorem resolveListing_assembled (h : resolveListing t dir o listing = .ok s) :
    Assembled t o.loadInput (slotPath dir o) (membersOf dir o.extension listing) s := by
  refine Assembled.empty.addMembers (fun m hm => ?_) h
  obtain ⟨entry, -, hb, hpath⟩ := mem_membersOf.mp hm
  rw [hpath, hb.path]

theorem resolveListing_readable (h : resolveListing t dir o listing = .ok s) :
    ∀ m ∈ membersOf dir o.extension listing, m.IsReadable t o.loadInput :=
  addMembers_isOk_iff.mp ⟨s, h⟩

/-- A fixture of the set is what the listing makes up for its identifier. -/
theorem eq_assemble_of_mem (h : resolveListing t dir o listing = .ok s) {f : Fixture}
    (hf : f ∈ s.fixtures) :
    f = assemble t o.loadInput (slotPath dir o) f.id
      (hasMember (membersOf dir o.extension listing) f.id) := by
  have ha := resolveListing_assembled h
  have hget := ha.ascending.get?_eq_some_iff.mpr ⟨hf, rfl⟩
  rw [ha.get?] at hget
  split at hget
  · exact (Option.some.inj hget).symm
  · cases hget

theorem path_eq_of_mem (h : resolveListing t dir o listing = .ok s) {f : Fixture}
    (hf : f ∈ s.fixtures) (role : Role) :
    f.path role = if hasMember (membersOf dir o.extension listing) f.id role then
      slotPath dir o f.id role else [] := by
  have heq := eq_assemble_of_mem h hf
  rw [heq]
  cases role <;> rfl

theorem slotPath_ne_nil (h : hasMember (membersOf dir o.extension listing) id role = true) :
    slotPath dir o id role ≠ [] := by
  obtain ⟨entry, -, hb⟩ := hasMember_membersOf.mp h
  rw [hb.path dir]
  exact Path.join_ne_nil hb.name_ne_nil

theorem path_ne_nil_iff (h : resolveListing t dir o listing = .ok s) {f : Fixture}
    (hf : f ∈ s.fixtures) (role : Role) :
    f.path role ≠ [] ↔ hasMember (membersOf dir o.extension listing) f.id role = true := by
  rw [path_eq_of_mem h hf]
  split
  · rename_i hhas
    simp [hhas, slotPath_ne_nil hhas]
  · rename_i hhas
    simp [hhas]

/-- The content of a file whose reading was needed. -/
theorem read_slotPath (h : resolveListing t dir o listing = .ok s)
    (hhas : hasMember (membersOf dir o.extension listing) id role = true)
    (hneed : role = .expected ∨ role = .input ∧ o.loadInput = true) :
    t.read (slotPath dir o id role) = .ok (t.contentOf (slotPath dir o id role)) := by
  obtain ⟨entry, he, hb⟩ := hasMember_membersOf.mp hhas
  obtain ⟨data, hdata⟩ := resolveListing_readable h ⟨id, role, Path.join dir entry.1⟩
    (mem_membersOf.mpr ⟨entry, he, hb, rfl⟩) hneed
  rw [Tree.contentOf, hb.path dir, hdata]

theorem path_eq_slotPath (h : resolveListing t dir o listing = .ok s) {f : Fixture}
    (hf : f ∈ s.fixtures) (role : Role) (hne : f.path role ≠ []) :
    f.path role = slotPath dir o f.id role := by
  rw [path_eq_of_mem h hf, if_pos ((path_ne_nil_iff h hf role).mp hne)]

theorem expected_of_mem (h : resolveListing t dir o listing = .ok s) {f : Fixture}
    (hf : f ∈ s.fixtures) :
    if f.expectedPath = [] then f.expected = [] else t.read f.expectedPath = .ok f.expected := by
  have hfield : f.expectedPath = f.path .expected := rfl
  have heq := congrArg Fixture.expected (eq_assemble_of_mem h hf)
  split
  · rename_i hnil
    have hnot := mt (path_ne_nil_iff h hf .expected).mpr (by simpa [← hfield] using hnil)
    rw [heq]
    simp [assemble, hnot]
  · rename_i hne
    have hhas := (path_ne_nil_iff h hf .expected).mp hne
    rw [heq, hfield, path_eq_slotPath h hf .expected hne, read_slotPath h hhas (Or.inl rfl)]
    simp [assemble, hhas]

theorem input_of_mem (h : resolveListing t dir o listing = .ok s) {f : Fixture}
    (hf : f ∈ s.fixtures) :
    if f.inputPath = [] ∨ o.loadInput = false then f.input = []
    else t.read f.inputPath = .ok f.input := by
  have hfield : f.inputPath = f.path .input := rfl
  have heq := congrArg Fixture.input (eq_assemble_of_mem h hf)
  split
  · rename_i hnil
    rw [heq]
    rcases hnil with hnil | hload
    · have hnot := mt (path_ne_nil_iff h hf .input).mpr (by simpa [← hfield] using hnil)
      simp [assemble, hnot]
    · simp [assemble, hload]
  · rename_i hne
    obtain ⟨hne, hload⟩ := not_or.mp hne
    have hload : o.loadInput = true := by simpa using hload
    have hhas := (path_ne_nil_iff h hf .input).mp hne
    rw [heq, hfield, path_eq_slotPath h hf .input hne,
      read_slotPath h hhas (Or.inr ⟨rfl, hload⟩)]
    simp [assemble, hhas, hload]

/-- The order of a listing makes no difference. -/
theorem resolveListing_perm {listing' : List (Bytes × Entry)} (hperm : listing'.Perm listing)
    (h : resolveListing t dir o listing = .ok s) : resolveListing t dir o listing' = .ok s := by
  have hms : (membersOf dir o.extension listing').Perm (membersOf dir o.extension listing) :=
    hperm.filterMap _
  obtain ⟨s', hs'⟩ : ∃ s', resolveListing t dir o listing' = .ok s' :=
    addMembers_isOk_iff.mpr fun m hm => resolveListing_readable h m (hms.mem_iff.mp hm)
  have ha := resolveListing_assembled h
  have ha' := resolveListing_assembled hs'
  have hsame : s' = s := by
    refine ha'.ascending.eq_of_get? ha.ascending fun id => ?_
    have hhas : hasMember (membersOf dir o.extension listing') id
        = hasMember (membersOf dir o.extension listing) id := by
      funext role
      exact hms.any_eq
    rw [ha'.get?, ha.get?, hms.any_eq, hhas]
  rw [hs', hsame]

theorem mem_ids_iff (h : resolveListing t dir o listing = .ok s) :
    id ∈ s.ids ↔ ∃ entry ∈ listing, ∃ role, Belongs o entry id role := by
  have ha := resolveListing_assembled h
  have hids : id ∈ s.ids ↔ ∃ f, s.get? id = some f := by
    simp only [FixtureSet.mem_ids, ha.ascending.get?_eq_some_iff]
  have hany : (membersOf dir o.extension listing).any (·.id = id) = true ↔
      ∃ entry ∈ listing, ∃ role, Belongs o entry id role := by
    simp only [List.any_eq_true, decide_eq_true_eq]
    constructor
    · rintro ⟨m, hm, rfl⟩
      obtain ⟨entry, he, hb, -⟩ := mem_membersOf.mp hm
      exact ⟨entry, he, m.role, hb⟩
    · rintro ⟨entry, he, role, hb⟩
      exact ⟨⟨id, role, Path.join dir entry.1⟩, mem_membersOf.mpr ⟨entry, he, hb, rfl⟩, rfl⟩
  rw [hids, ← hany, ha.get?]
  split
  · rename_i htrue
    simp [htrue]
  · rename_i hfalse
    simp [hfalse]

theorem belongs_unique (hnames : (listing.map Prod.fst).Nodup) {entry' : Bytes × Entry}
    (he : entry ∈ listing) (he' : entry' ∈ listing) (hb : Belongs o entry id role)
    (hb' : Belongs o entry' id role) : entry = entry' := by
  have hname : entry.1 = entry'.1 := hb.name.trans hb'.name.symm
  exact List.inj_on_of_nodup_map hnames he he' hname

end Listing

/-- Whenever discovery succeeds on a listing with distinct names, whatever its order, the result
groups its files, and every order of the listing gives the same result. -/
theorem resolveListing_grouping {t : Tree} {dir : Bytes} {o : ResolveOptions}
    {listing : List (Bytes × Entry)} {s : FixtureSet} (hnames : (listing.map Prod.fst).Nodup)
    (h : resolveListing t dir o listing = .ok s) :
    IsGrouping t dir o listing s ∧
      ∀ listing' : List (Bytes × Entry), listing'.Perm listing →
        resolveListing t dir o listing' = .ok s := by
  have ha := resolveListing_assembled h
  refine ⟨?_, fun listing' hperm => resolveListing_perm hperm h⟩
  constructor
  case ascending =>
    rw [ha.ascending.ids_eq_map]
    exact List.pairwise_map.mpr ha.ascending
  case mem_ids => exact fun id => mem_ids_iff h
  case sorted => rw [ha.ascending.sorted_eq, ha.ascending.ids_eq_map]
  case held => exact ha.ascending.sorted_eq
  case size => rw [ha.ascending.ids_eq_map, List.length_map, FixtureSet.size]
  case get? => exact fun id f => ha.ascending.get?_eq_some_iff
  case filled =>
    intro f hf role
    rw [path_ne_nil_iff h hf, hasMember_membersOf]
  case unique =>
    intro id role entry he entry' he' hb hb'
    exact belongs_unique hnames he he' hb hb'
  case path =>
    intro f hf role entry he hb
    rw [path_eq_of_mem h hf, if_pos (hasMember_membersOf.mpr ⟨entry, he, hb⟩), hb.path dir]
  case expected => exact fun f hf => expected_of_mem h hf
  case input => exact fun f hf => input_of_mem h hf

/-- A listing in no particular order, with a dotted identifier, a directory that is named like a
program, and a file that belongs to no fixture. -/
def mixedListing : List (Bytes × Entry) :=
  [("b.in", .file "1"), ("a.x.out", .file "2"), ("d.asm", .dir), ("notes", .file "3"),
    ("a.x.asm", .file "4")]

/-- The working directory with the files of `mixedListing`. -/
def mixedTree : Tree :=
  { cwd := [], entries := mixedListing.map fun entry => ([entry.1], entry.2) }

/-- The fixtures of `mixedListing`. -/
def mixedSet : FixtureSet :=
  ⟨[{ id := "a.x", programPath := "a.x.asm", expectedPath := "a.x.out", expected := "2" },
    { id := "b", inputPath := "b.in", input := "1" }]⟩

theorem mixedListing_grouping :
    (mixedListing.map Prod.fst).Nodup ∧
    resolveListing mixedTree "." { loadInput := true } mixedListing = .ok mixedSet ∧
    IsGrouping mixedTree "." { loadInput := true } mixedListing mixedSet ∧
    resolveListing mixedTree "." { loadInput := true } mixedListing.reverse = .ok mixedSet := by
  have hnames : (mixedListing.map Prod.fst).Nodup := by decide
  have h : resolveListing mixedTree "." { loadInput := true } mixedListing = .ok mixedSet := rfl
  obtain ⟨hgroup, hperm⟩ := resolveListing_grouping hnames h
  exact ⟨hnames, h, hgroup, hperm _ mixedListing.reverse_perm⟩

end Golden
