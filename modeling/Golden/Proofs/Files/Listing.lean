import Golden.Proofs.Files.Links
import Mathlib.Data.List.Nodup

/-!
# Entries of a directory

A directory lists the entries that stand directly under it (`mem_children`). An entry is opened in its
directory by walking on from there (`Tree.locateIn`), or from outside through the path of the directory
with the name of the entry behind it. Where cleaning does not stray, these are the same
(`Opens.locate_join`).
-/

namespace Golden.Tree

/-! ## Listing -/

/-- Every location is listed once, and consists of names that entries can have. -/
structure WellFormed (t : Tree) : Prop where
  names : ∀ p ∈ t.entries, ∀ name ∈ p.1, IsFileName name
  nodup : (t.entries.map Prod.fst).Nodup

instance (t : Tree) : Decidable t.WellFormed :=
  decidable_of_iff
    ((∀ p ∈ t.entries, ∀ name ∈ p.1, IsFileName name) ∧ (t.entries.map Prod.fst).Nodup)
    ⟨fun ⟨hnames, hnodup⟩ => ⟨hnames, hnodup⟩, fun h => ⟨h.names, h.nodup⟩⟩

variable {t : Tree} {there l : Location} {name dir data : Bytes} {links : Nat} {e : Entry}

theorem childName?_eq_some_iff : childName? there l = some name ↔ l = there ++ [name] := by
  unfold childName?
  constructor
  · intro h
    split at h
    · rename_i hfront
      obtain ⟨rest, rfl⟩ := List.isPrefixOf_iff_prefix.mp hfront
      rw [List.drop_left] at h
      split at h
      · cases h
        rfl
      · cases h
    · cases h
  · rintro rfl
    rw [if_pos (List.isPrefixOf_iff_prefix.mpr (List.prefix_append there [name])), List.drop_left]

/-- What stands directly under a directory, in the order of the tree. -/
def childrenOf (there : Location) (entries : List (Location × Entry)) : List (Bytes × Entry) :=
  entries.filterMap fun p => (childName? there p.1).map fun name => (name, p.2)

theorem children_perm (t : Tree) (there : Location) :
    (t.children there).Perm (childrenOf there t.entries) :=
  List.mergeSort_perm _ _

/-- A directory is listed in the order of the names. -/
theorem children_pairwise (t : Tree) (there : Location) :
    (t.children there).Pairwise fun a b => Bytes.le a.1 b.1 = true :=
  List.pairwise_mergeSort (fun a b c => Bytes.le_trans a.1 b.1 c.1)
    (fun a b => Bytes.le_total a.1 b.1) _

/-- What stands in ascending order in the tree is listed in that order. -/
theorem children_eq (h : (childrenOf there t.entries).Pairwise fun a b => Bytes.le a.1 b.1 = true) :
    t.children there = childrenOf there t.entries :=
  List.mergeSort_of_pairwise h

theorem mem_childrenOf {entries : List (Location × Entry)} :
    (name, e) ∈ childrenOf there entries ↔ (there ++ [name], e) ∈ entries := by
  unfold childrenOf
  rw [List.mem_filterMap]
  constructor
  · rintro ⟨⟨l, e'⟩, hmem, hp⟩
    obtain ⟨name', hname, hpair⟩ := Option.map_eq_some_iff.mp hp
    cases hpair
    obtain rfl := childName?_eq_some_iff.mp hname
    exact hmem
  · intro hmem
    exact ⟨_, hmem, by simp [childName?_eq_some_iff.mpr rfl]⟩

theorem mem_children : (name, e) ∈ t.children there ↔ (there ++ [name], e) ∈ t.entries :=
  (t.children_perm there).mem_iff.trans mem_childrenOf

/-- What is listed at a location stands there. -/
theorem WellFormed.get?_of_mem (h : t.WellFormed) (hl : l ≠ []) (hmem : (l, e) ∈ t.entries) :
    t.get? l = some e := by
  unfold get?
  rw [if_neg (by simpa using hl)]
  cases hfind : t.entries.find? (·.1 = l) with
  | none => exact absurd (decide_eq_true rfl) (List.find?_eq_none.mp hfind (l, e) hmem)
  | some p =>
    have hp : p.1 = l := by simpa using List.find?_some hfind
    rw [List.inj_on_of_nodup_map h.nodup (List.mem_of_find?_eq_some hfind) hmem hp]
    rfl

theorem WellFormed.get?_of_mem_children (h : t.WellFormed) (hmem : (name, e) ∈ t.children there) :
    t.get? (there ++ [name]) = some e :=
  h.get?_of_mem (by simp) (mem_children.mp hmem)

theorem WellFormed.isFileName (h : t.WellFormed) (hmem : (name, e) ∈ t.children there) :
    IsFileName name :=
  h.names _ (mem_children.mp hmem) name (by simp)

theorem WellFormed.put (h : t.WellFormed) (hl : ∀ name ∈ l, IsFileName name) (e : Entry) :
    (t.put l e).WellFormed := by
  unfold Tree.put
  split
  · have hfst : (fun p : Location × Entry => (if p.1 = l then (l, e) else p).1) = Prod.fst := by
      funext p
      split
      · rename_i hp
        exact hp.symm
      · rfl
    constructor
    · intro p hp
      obtain ⟨q, hq, rfl⟩ := List.mem_map.mp hp
      have hloc : (if q.1 = l then (l, e) else q).1 = q.1 := congrFun hfst q
      rw [hloc]
      exact h.names q hq
    · show ((t.entries.map _).map Prod.fst).Nodup
      rw [List.map_map, Function.comp_def, hfst]
      exact h.nodup
  · rename_i hnew
    constructor
    · intro p hp
      rcases List.mem_append.mp hp with hp | hp
      · exact h.names p hp
      · rw [List.mem_singleton.mp hp]
        exact hl
    · show ((t.entries ++ [(l, e)]).map Prod.fst).Nodup
      rw [List.map_append, List.nodup_append]
      refine ⟨h.nodup, List.nodup_singleton l, ?_⟩
      intro l₁ h₁ l₂ h₂ heq
      obtain ⟨p, hp, rfl⟩ := List.mem_map.mp h₁
      obtain rfl := List.mem_singleton.mp h₂
      exact hnew (List.any_eq_true.mpr ⟨p, hp, decide_eq_true heq⟩)

/-- Where no two entries of a directory have one name, each stands where it is listed. -/
theorem get?_of_mem_children (hnodup : ((t.children there).map Prod.fst).Nodup)
    (hmem : (name, e) ∈ t.children there) : t.get? (there ++ [name]) = some e := by
  unfold get?
  rw [if_neg (by simp)]
  cases hfind : t.entries.find? (·.1 = there ++ [name]) with
  | none =>
    have hno := List.find?_eq_none.mp hfind (there ++ [name], e) (mem_children.mp hmem)
    exact absurd (decide_eq_true rfl) hno
  | some p =>
    have hp : p.1 = there ++ [name] := by simpa using List.find?_some hfind
    have hp' : (name, p.2) ∈ t.children there := by
      rw [mem_children, ← hp]
      exact List.mem_of_find?_eq_some hfind
    exact congrArg (fun x : Bytes × Entry => some x.2)
      (List.inj_on_of_nodup_map hnodup hp' hmem rfl)

theorem get?_eq_none_of_children (h : t.children there = []) : t.get? (there ++ [name]) = none := by
  refine Option.eq_none_iff_forall_ne_some.mpr fun e hget => ?_
  rcases exists_of_get? hget with ⟨hnil, -⟩ | hmem
  · exact absurd hnil (by simp)
  · have hlisted : (name, e) ∈ t.children there := mem_children.mpr hmem
    rw [h] at hlisted
    cases hlisted

/-! ## Opening an entry -/

theorem read_eq_ok_iff {p : Bytes} :
    t.read p = .ok data ↔ ∃ l, t.locate p = .ok l ∧ t.get? l = some (.file data) := by
  unfold read
  cases t.locate p with
  | error c => simp
  | ok l =>
    cases hget : t.get? l with
    | none => simp [hget]
    | some e => cases e <;> simp [hget]

theorem list_eq_ok_iff {p : Bytes} {listing : List (Bytes × Entry)} :
    t.list p = .ok listing ↔
      ∃ there, t.locate p = .ok there ∧ t.isDir there = true ∧ listing = t.children there := by
  unfold list
  cases t.locate p with
  | error c => simp
  | ok there =>
    by_cases hdir : t.isDir there = true
    · simp only [hdir, if_true, Except.ok.injEq, exists_eq_left', true_and]
      exact eq_comm
    · simp [hdir]

theorem list_of_locate {p : Bytes} (h : t.locate p = .ok there) (hdir : t.isDir there = true) :
    t.list p = .ok (t.children there) :=
  list_eq_ok_iff.mpr ⟨there, h, hdir, rfl⟩

theorem list_pairwise {p : Bytes} {listing : List (Bytes × Entry)} (h : t.list p = .ok listing) :
    listing.Pairwise fun a b => Bytes.le a.1 b.1 = true := by
  obtain ⟨there, -, -, rfl⟩ := list_eq_ok_iff.mp h
  exact t.children_pairwise there

theorem WellFormed.isFileName_of_list {p : Bytes} {listing : List (Bytes × Entry)} (hwf : t.WellFormed)
    (h : t.list p = .ok listing) (hmem : (name, e) ∈ listing) : IsFileName name := by
  obtain ⟨there, -, -, rfl⟩ := list_eq_ok_iff.mp h
  exact hwf.isFileName hmem

theorem ne_nil_of_list {p : Bytes} {listing : List (Bytes × Entry)} (h : t.list p = .ok listing) :
    p ≠ [] := by
  rintro rfl
  cases h

/-- The location that a name leads to from a directory. -/
def locateIn (t : Tree) (there : Location) (name : Bytes) : Except FileCause Location :=
  match t.walkFrom maxLinks there [name] with
  | .ok (.found l) => .ok l
  | .ok (.free _ _) => .error .notFound
  | .error c => .error c

/-- A name leads to the file of that name. -/
theorem walkFrom_file (hdir : t.isDir there = true) (hname : IsFileName name)
    (hfile : t.get? (there ++ [name]) = some (.file data)) (n : Nat) :
    t.walkFrom n there [name] = .ok (.found (there ++ [name])) := by
  rw [walkFrom_singleton n hdir hname.ne_dot hname.ne_dots (by simp [hfile]),
    if_neg (Nat.not_lt.mpr hname.short), if_neg (by simp [hfile])]

/-- From outside a name leads where it leads in its directory, unless too many links stand on the way. -/
theorem Opens.locate_join (h : t.Opens dir links there) (hname : IsFileName name)
    (hlen : (Path.join dir name).length ≤ maxPath)
    (hlinks : t.locate (Path.join dir name) ≠ .error .tooManyLinks) :
    t.locate (Path.join dir name) = t.locateIn there name := by
  have hwalk := h.walk_join hname hlen
  have hmono : t.walkFrom maxLinks there [name] = t.walkFrom links there [name] := by
    refine walkFrom_mono h.arrives.le fun hmany => hlinks ?_
    rw [locate, hwalk, hmany]
  cases hlast : t.walkFrom links there [name] with
  | error c =>
    rw [hlast] at hwalk hmono
    simp only [locate, locateIn, hwalk, hmono]
  | ok d =>
    rw [hlast] at hwalk hmono
    cases d <;> simp only [locate, locateIn, hwalk, hmono]

theorem Opens.read_join (h : t.Opens dir links there) (hname : IsFileName name)
    (hlen : (Path.join dir name).length ≤ maxPath)
    (hfile : t.get? (there ++ [name]) = some (.file data)) :
    t.read (Path.join dir name) = .ok data := by
  have hwalk := h.walk_join hname hlen
  rw [walkFrom_file h.arrives.isDir_end hname hfile] at hwalk
  rw [read, locate, hwalk]
  simp only [hfile]

end Golden.Tree
