import Golden.Proofs.Files.Clean

/-!
# Walking without links

On a path that meets no link, looking up names is bookkeeping on locations: `Tree.enter` says where a
name leads, and `Tree.Leads` that every location on the way is a directory. There cleaning is harmless,
because an element that `..` cancels has led into a subdirectory and back (`Leads.cleanElements`).

Writing a file changes one location (`get?_put_self`, `get?_put_ne`), and where no directory stood it
leaves every such path as it was (`Leads.put`).
-/

namespace Golden.Tree

/-! ## One entry -/

theorem get?_put_ne (t : Tree) {l l' : Location} (h : l' ≠ l) (e : Entry) :
    (t.put l e).get? l' = t.get? l' := by
  unfold put
  split
  · unfold get?
    split
    · rfl
    · congr 1
      induction t.entries with
      | nil => rfl
      | cons p ps ih =>
        rw [List.map_cons, List.find?_cons, List.find?_cons]
        by_cases hp : p.1 = l
        · simp [hp, Ne.symm h, ih]
        · simp only [if_neg hp, ih]
  · unfold get?
    split
    · rfl
    · simp [List.find?_append, Ne.symm h]

theorem get?_put_self (t : Tree) {l : Location} (hl : l ≠ []) (e : Entry) :
    (t.put l e).get? l = some e := by
  have hempty : l.isEmpty = false := by simpa using hl
  unfold put
  split
  · rename_i hany
    simp only [get?, hempty, Bool.false_eq_true, if_false]
    revert hany
    induction t.entries with
    | nil => intro hany; cases hany
    | cons p ps ih =>
      intro hany
      rw [List.map_cons, List.find?_cons]
      by_cases hp : p.1 = l
      · simp [hp]
      · rw [List.any_cons, decide_eq_false hp, Bool.false_or] at hany
        rw [if_neg hp, decide_eq_false hp]
        exact ih hany
  · rename_i hany
    have hnone : t.entries.find? (·.1 = l) = none :=
      List.find?_eq_none.mpr fun p hp hl => hany (List.any_eq_true.mpr ⟨p, hp, hl⟩)
    simp [get?, hempty, List.find?_append, hnone]

@[simp] theorem put_cwd (t : Tree) (l : Location) (e : Entry) : (t.put l e).cwd = t.cwd := by
  unfold put
  split <;> rfl

theorem exists_of_get? {t : Tree} {l : Location} {e : Entry} (h : t.get? l = some e) :
    l = [] ∧ e = .dir ∨ (l, e) ∈ t.entries := by
  unfold get? at h
  split at h
  · rename_i hl
    exact Or.inl ⟨List.isEmpty_iff.mp hl, (Option.some.inj h).symm⟩
  · obtain ⟨p, hp, rfl⟩ := Option.map_eq_some_iff.mp h
    have hl := List.find?_some hp
    rw [← of_decide_eq_true hl]
    exact Or.inr (List.mem_of_find?_eq_some hp)

/-- In a tree without links none is met. -/
theorem get?_ne_link {t : Tree} (h : ∀ p ∈ t.entries, ∀ target, p.2 ≠ .link target) (l : Location)
    (target : Bytes) : t.get? l ≠ some (.link target) := by
  intro hget
  rcases exists_of_get? hget with ⟨-, hdir⟩ | hmem
  · cases hdir
  · exact h _ hmem target rfl

/-- In a tree of directories every listed location is one. -/
theorem isDir_of_mem {t : Tree} (h : ∀ p ∈ t.entries, p.2 = .dir) {l : Location}
    (hl : l ∈ t.entries.map (·.1)) : t.isDir l = true := by
  obtain ⟨p, hp, rfl⟩ := List.mem_map.mp hl
  unfold isDir get?
  split
  · rfl
  · cases hfind : t.entries.find? (·.1 = p.1) with
    | none => exact absurd (decide_eq_true rfl) (List.find?_eq_none.mp hfind p hp)
    | some q => simp [h q (List.mem_of_find?_eq_some hfind)]

/-! ## Names that lead through directories -/

/-- Where a name leads, no links being met. -/
def enter (here : Location) (name : Bytes) : Location :=
  if name = utf8 "." then here
  else if name = utf8 ".." then here.dropLast
  else here ++ [name]

/-- The names lead from one directory to another, and through directories only. -/
def Leads (t : Tree) : Location → List Bytes → Location → Prop
  | here, [], there => t.isDir here = true ∧ here = there
  | here, name :: rest, there =>
    t.isDir here = true ∧ name.length ≤ maxName ∧ Leads t (enter here name) rest there

variable {t : Tree} {here there : Location} {names : List Bytes} {name : Bytes}

theorem Leads.isDir_start (h : t.Leads here names there) : t.isDir here = true := by
  cases names with
  | nil => exact h.1
  | cons name rest => exact h.1

theorem Leads.isDir_end (h : t.Leads here names there) : t.isDir there = true := by
  induction names generalizing here with
  | nil => exact h.2 ▸ h.1
  | cons name rest ih => exact ih h.2.2

theorem leads_append {xs ys : List Bytes} :
    t.Leads here (xs ++ ys) there ↔ ∃ mid, t.Leads here xs mid ∧ t.Leads mid ys there := by
  induction xs generalizing here with
  | nil =>
    constructor
    · intro h
      exact ⟨here, ⟨h.isDir_start, rfl⟩, h⟩
    · rintro ⟨mid, ⟨-, rfl⟩, h⟩
      exact h
  | cons x xs ih =>
    constructor
    · rintro ⟨hdir, hlen, h⟩
      obtain ⟨mid, h1, h2⟩ := ih.mp h
      exact ⟨mid, ⟨hdir, hlen, h1⟩, h2⟩
    · rintro ⟨mid, ⟨hdir, hlen, h1⟩, h2⟩
      exact ⟨hdir, hlen, ih.mpr ⟨mid, h1, h2⟩⟩

theorem leads_singleton :
    t.Leads here [name] there ↔
      t.isDir here = true ∧ name.length ≤ maxName ∧ t.isDir there = true ∧ enter here name = there := by
  constructor
  · rintro ⟨h1, h2, h3, rfl⟩
    exact ⟨h1, h2, h3, rfl⟩
  · rintro ⟨h1, h2, h3, rfl⟩
    exact ⟨h1, h2, h3, rfl⟩

/-- Plain names lead down through the directories that stand at their fronts. -/
theorem leads_of_take (hdir : ∀ k ≤ names.length, t.isDir (here ++ names.take k) = true)
    (hnames : ∀ e ∈ names, e ≠ utf8 "." ∧ e ≠ utf8 ".." ∧ e.length ≤ maxName) :
    t.Leads here names (here ++ names) := by
  induction names generalizing here with
  | nil => exact ⟨by simpa using hdir 0 (Nat.le_refl _), by simp⟩
  | cons name names ih =>
    obtain ⟨hdot, hdots, hlen⟩ := hnames name List.mem_cons_self
    have henter : enter here name = here ++ [name] := by rw [enter, if_neg hdot, if_neg hdots]
    refine ⟨by simpa using hdir 0 (Nat.zero_le _), hlen, ?_⟩
    rw [henter, List.append_cons here name names]
    refine ih (fun k hk => ?_) fun e he => hnames e (List.mem_cons_of_mem _ he)
    rw [List.append_assoc, List.singleton_append, ← List.take_succ_cons]
    exact hdir (k + 1) (Nat.succ_le_succ hk)

/-- A walk goes through directories without further ado. -/
theorem walkNames_of_leads {follow : Location → Bytes → List Bytes → Except FileCause Destination}
    (h : t.Leads here names there) (rest : List Bytes) :
    t.walkNames follow here (names ++ rest) = t.walkNames follow there rest := by
  induction names generalizing here with
  | nil => rw [h.2, List.nil_append]
  | cons name names ih =>
    obtain ⟨hdir, hlen, hrest⟩ := h
    have hnext := hrest.isDir_start
    rw [List.cons_append, walkNames, ← ih hrest]
    unfold enter at hnext ⊢
    by_cases hdot : name = utf8 "."
    · simp [hdir, hdot]
    · by_cases hdots : name = utf8 ".."
      · simp [hdir, hdots, show utf8 ".." ≠ utf8 "." by decide]
      · have hget : t.get? (here ++ [name]) = some .dir := by
          simpa [hdot, hdots, isDir] using hnext
        simp [hdir, hdot, hdots, Nat.not_lt.mpr hlen, hget]

theorem walkFrom_of_leads (n : Nat) (h : t.Leads here names there) (rest : List Bytes) :
    t.walkFrom n here (names ++ rest) = t.walkFrom n there rest := by
  cases n with
  | zero => exact walkNames_of_leads h rest
  | succ n => exact walkNames_of_leads h rest

theorem walkFrom_eq_found (n : Nat) (h : t.Leads here names there) :
    t.walkFrom n here names = .ok (.found there) := by
  have hwalk := walkFrom_of_leads n h []
  rw [List.append_nil] at hwalk
  rw [hwalk]
  cases n <;> simp [walkFrom, walkNames]

/-- What the last name of a walk leads to, where it is no link. -/
theorem walkFrom_singleton (n : Nat) (hdir : t.isDir there = true) (hdot : name ≠ utf8 ".")
    (hdots : name ≠ utf8 "..") (hlinks : ∀ target, t.get? (there ++ [name]) ≠ some (.link target)) :
    t.walkFrom n there [name] =
      if name.length > maxName then .error .nameTooLong
      else if t.get? (there ++ [name]) = none then .ok (.free there name)
      else .ok (.found (there ++ [name])) := by
  have hwalk : ∀ follow : Location → Bytes → List Bytes → Except FileCause Destination,
      t.walkNames follow there [name] =
        if name.length > maxName then .error .nameTooLong
        else if t.get? (there ++ [name]) = none then .ok (.free there name)
        else .ok (.found (there ++ [name])) := by
    intro follow
    rw [walkNames, if_neg (by simp [hdir]), if_neg hdot, if_neg hdots]
    split
    · rfl
    · cases hget : t.get? (there ++ [name]) with
      | none => simp
      | some e =>
        cases e with
        | link target => exact absurd hget (hlinks target)
        | file data => simp [walkNames]
        | dir => simp [walkNames]
  cases n with
  | zero => exact hwalk _
  | succ n => exact hwalk _

/-! ## Paths that meet no link -/

/-- None of the locations that the names lead to is a link. -/
def MeetsNoLink (t : Tree) : Location → List Bytes → Prop
  | _, [] => True
  | here, name :: rest =>
    (∀ target, t.get? (enter here name) ≠ some (.link target)) ∧ MeetsNoLink t (enter here name) rest

theorem meetsNoLink {t : Tree} (h : ∀ p ∈ t.entries, ∀ target, p.2 ≠ .link target)
    (here : Location) (names : List Bytes) : t.MeetsNoLink here names := by
  induction names generalizing here with
  | nil => trivial
  | cons name rest ih => exact ⟨get?_ne_link h _, ih _⟩

/-- What a walk without links has found is reached through directories. -/
theorem leads_of_walkNames {follow : Location → Bytes → List Bytes → Except FileCause Destination}
    (h : t.walkNames follow here names = .ok (.found there)) (hlinks : t.MeetsNoLink here names)
    (hdir : t.isDir there = true) : t.Leads here names there := by
  induction names generalizing here with
  | nil =>
    rw [walkNames] at h
    cases h
    exact ⟨hdir, rfl⟩
  | cons name names ih =>
    obtain ⟨hlink, hlinks⟩ := hlinks
    rw [walkNames] at h
    by_cases hhere : t.isDir here = true
    · rw [if_neg (by simp [hhere])] at h
      refine ⟨hhere, ?_⟩
      unfold enter at hlink hlinks ⊢
      by_cases hdot : name = utf8 "."
      · rw [if_pos hdot] at h hlinks ⊢
        exact ⟨by rw [hdot]; decide, ih h hlinks⟩
      · rw [if_neg hdot] at h hlinks hlink ⊢
        by_cases hdots : name = utf8 ".."
        · rw [if_pos hdots] at h hlinks ⊢
          exact ⟨by rw [hdots]; decide, ih h hlinks⟩
        · rw [if_neg hdots] at h hlinks hlink ⊢
          split at h
          · cases h
          · rename_i hlen
            refine ⟨Nat.not_lt.mp hlen, ?_⟩
            split at h
            · split at h <;> cases h
            · rename_i target hget
              exact absurd hget (hlink target)
            · exact ih h hlinks
    · rw [if_pos (by simp [hhere])] at h
      cases h

theorem walk_eq_ok {p : Bytes} {d : Destination} (h : t.walk p = .ok d) :
    p ≠ [] ∧ 0 ∉ p ∧ p.length ≤ maxPath ∧
      t.walkFrom maxLinks (t.start p) (pathNames p) = .ok d := by
  unfold walk at h
  split at h
  · cases h
  · rename_i hne
    split at h
    · cases h
    · rename_i hnul
      split at h
      · cases h
      · rename_i hlen
        exact ⟨by simpa using hne, by simpa using hnul, Nat.not_lt.mp hlen, h⟩

theorem locate_eq_ok {p : Bytes} {l : Location} (h : t.locate p = .ok l) :
    t.walk p = .ok (.found l) := by
  unfold locate at h
  split at h
  · rename_i hw
    cases h
    exact hw
  · cases h
  · cases h

/-- A path without links leads to its directory through directories. -/
theorem leads_of_locate {p : Bytes} {l : Location} (h : t.locate p = .ok l)
    (hdir : t.isDir l = true) (hlinks : t.MeetsNoLink (t.start p) (pathNames p)) :
    t.Leads (t.start p) (pathNames p) l :=
  leads_of_walkNames (walk_eq_ok (locate_eq_ok h)).2.2.2 hlinks hdir

/-! ## Cleaning -/

theorem enter_dot (here : Location) : enter here (utf8 ".") = here := if_pos rfl

theorem enter_dots (here : Location) : enter here (utf8 "..") = here.dropLast := rfl

theorem enter_plain (here : Location) (h1 : name ≠ utf8 ".") (h2 : name ≠ utf8 "..") :
    enter here name = here ++ [name] := by
  rw [enter, if_neg h1, if_neg h2]

/-- Going on from where the cleaned elements so far lead. At the root `..` leads nowhere else, so a
rooted path can leave it out. -/
theorem Leads.addElement {rooted : Bool} {done : List Bytes} {mid : Location} {e : Bytes}
    (hroot : rooted = true → here = []) (hdone : ∀ x ∈ done, x ≠ utf8 ".")
    (h : t.Leads here done.reverse mid) (hne : e ≠ []) (he : t.Leads mid [e] there) :
    t.Leads here (Path.addElement rooted done e).reverse there := by
  have hpush : t.Leads here (e :: done).reverse there := by
    rw [List.reverse_cons]
    exact leads_append.mpr ⟨mid, h, he⟩
  obtain ⟨-, -, hthere, rfl⟩ := leads_singleton.mp he
  by_cases hdot : e = utf8 "."
  · rw [Path.addElement.eq_def, if_pos (by simp [hdot]), hdot, enter_dot]
    exact h
  · rw [Path.addElement.eq_def, if_neg (by simp [hne, hdot])]
    by_cases hdots : e = utf8 ".."
    · rw [if_pos hdots]
      rw [hdots, enter_dots] at hthere ⊢
      cases done with
      | nil =>
        obtain ⟨hdir, rfl⟩ := h
        cases rooted with
        | true =>
          rw [hroot rfl]
          exact ⟨rfl, rfl⟩
        | false =>
          rw [hdots, enter_dots] at hpush
          exact hpush
      | cons last done =>
        by_cases hlast : last = utf8 ".."
        · simp only [if_pos hlast]
          rw [hdots, enter_dots] at hpush
          exact hpush
        · -- The last element has led into a subdirectory, and `..` leads back out of it.
          simp only [if_neg hlast]
          rw [List.reverse_cons] at h
          obtain ⟨before, hbefore, hstep⟩ := leads_append.mp h
          obtain ⟨-, -, -, rfl⟩ := leads_singleton.mp hstep
          rw [enter_plain _ (hdone last List.mem_cons_self) hlast, List.dropLast_concat]
          exact hbefore
    · rw [if_neg hdots]
      exact hpush

theorem Leads.foldl_addElement {rooted : Bool} {es done : List Bytes} {mid : Location}
    (hroot : rooted = true → here = []) (hdone : ∀ x ∈ done, x ≠ utf8 ".")
    (h : t.Leads here done.reverse mid) (hes : t.Leads mid (es.filter fun e => !e.isEmpty) there) :
    t.Leads here (es.foldl (Path.addElement rooted) done).reverse there := by
  induction es generalizing done mid with
  | nil =>
    obtain ⟨-, rfl⟩ := hes
    exact h
  | cons e es ih =>
    rw [List.foldl_cons]
    by_cases hne : e = []
    · have hskip : Path.addElement rooted done e = done := by simp [Path.addElement, hne]
      rw [hskip]
      refine ih hdone h ?_
      simpa [hne] using hes
    · have hcons : (e :: es).filter (fun e => !e.isEmpty) = [e] ++ es.filter fun e => !e.isEmpty := by
        simp [hne]
      rw [hcons] at hes
      obtain ⟨next, hnext, hes⟩ := leads_append.mp hes
      refine ih (fun x hx => ?_) (h.addElement hroot hdone hne hnext) hes
      rcases Path.mem_addElement hx with hx | ⟨rfl, -, hx⟩
      · exact hdone x hx
      · exact hx

/-- A separator at the end of a path asks for nothing else than its elements do. -/
theorem Leads.elements {p : Bytes} (h : t.Leads here (pathNames p) there) :
    t.Leads here ((Bytes.splitOn Path.slash p).filter fun e => !e.isEmpty) there := by
  unfold pathNames at h
  simp only at h
  split at h
  · obtain ⟨mid, hmid, hdot⟩ := leads_append.mp h
    obtain ⟨-, -, -, rfl⟩ := leads_singleton.mp hdot
    rw [enter_dot]
    exact hmid
  · exact h

/-- Cleaning a path that meets no link does not change where it leads. -/
theorem Leads.cleanElements {p : Bytes} (h : t.Leads (t.start p) (pathNames p) there) :
    t.Leads (t.start p) (Path.cleanElements p) there := by
  have hroot : Path.isAbsolute p = true → t.start p = [] := fun habs => by rw [start, if_pos habs]
  exact Leads.foldl_addElement hroot (by simp) ⟨h.isDir_start, rfl⟩ h.elements

/-! ## Writing -/

theorem writeFile_eq_ok {p data : Bytes} {t' : Tree} (h : t.writeFile p data = .ok t') :
    ∃ d, t.walk p = .ok d ∧ ∀ l, d = .found l → t.isDir l = false := by
  unfold writeFile at h
  split at h
  · cases h
  · rename_i hw
    exact ⟨_, hw, by intro l hl; cases hl⟩
  · rename_i l hw
    split at h
    · cases h
    · rename_i hdir
      refine ⟨_, hw, fun l' hl => ?_⟩
      cases hl
      simpa using hdir

/-- A file that is written where no directory stood leaves every way as it was. -/
theorem Leads.put {l : Location} {e : Entry} (h : t.Leads here names there)
    (hl : t.isDir l = false) : (t.put l e).Leads here names there := by
  have hkeep : ∀ {x : Location}, t.isDir x = true → (t.put l e).isDir x = true := by
    intro x hx
    have hne : x ≠ l := by
      rintro rfl
      rw [hx] at hl
      cases hl
    rw [isDir, get?_put_ne t hne]
    exact hx
  induction names generalizing here with
  | nil => exact ⟨hkeep h.1, h.2⟩
  | cons name rest ih => exact ⟨hkeep h.1, h.2.1, ih h.2.2⟩

end Golden.Tree
