import Golden.Proofs.Files.Walk

/-!
# Walking through links

A walk may follow links, up to a number of them. `Tree.Arrives` says that names lead from one directory to
another, and how many links may still be followed there, so that a walk can be taken apart in the middle
(`arrives_append`).

Cleaning a path does not ask whether an element that `..` cancels is a link, and behind a link `..` leads
to the parent of its target. Where it leads back all the same (`cleanStrays`), as on a path that meets no
link (`Leads.cleanStrays`), the cleaned path arrives where the path does, and follows no more links
(`Arrives.cleanElements`). So a name that is joined to the path of a directory is looked up in that
directory (`Opens.walk_join`), also in every tree that has grown since (`Opens.extends`).
-/

namespace Golden.Tree

/-! ## Names that lead through directories and links -/

/-- The names lead from one directory to another. The numbers say how many links may be followed at the
start and how many may still be followed at the end. -/
inductive Arrives (t : Tree) : Nat → Location → List Bytes → Nat → Location → Prop
  | stop {n here} (dir : t.isDir here = true) : Arrives t n here [] n here
  /-- A name leads to a directory. -/
  | into {n m here there name rest} (dir : t.isDir here = true) (short : name.length ≤ maxName)
      (next : Arrives t n (enter here name) rest m there) : Arrives t n here (name :: rest) m there
  /-- A name leads to a link, and the walk goes on with the names of its target. -/
  | follow {n m here there name rest target} (dir : t.isDir here = true)
      (plain : name ≠ utf8 "." ∧ name ≠ utf8 "..") (short : name.length ≤ maxName)
      (link : t.get? (here ++ [name]) = some (.link target))
      (next : Arrives t n (if Path.isAbsolute target then [] else here) (pathNames target ++ rest) m
        there) :
      Arrives t (n + 1) here (name :: rest) m there

variable {t : Tree} {n k m : Nat} {here mid there : Location} {names rest xs ys : List Bytes}
  {name target : Bytes}

theorem Arrives.isDir_start (h : t.Arrives n here names m there) : t.isDir here = true := by
  cases h with
  | stop dir => exact dir
  | into dir => exact dir
  | follow dir => exact dir

theorem Arrives.isDir_end (h : t.Arrives n here names m there) : t.isDir there = true := by
  induction h with
  | stop dir => exact dir
  | into _ _ _ ih => exact ih
  | follow _ _ _ _ _ ih => exact ih

theorem Arrives.le (h : t.Arrives n here names m there) : m ≤ n := by
  induction h with
  | stop => exact Nat.le_refl _
  | into _ _ _ ih => exact ih
  | follow _ _ _ _ _ ih => exact Nat.le_succ_of_le ih

/-- With more links to follow, as many more are left at the end. -/
theorem Arrives.mono (h : t.Arrives n here names m there) (hle : n ≤ k) :
    ∃ m', m ≤ m' ∧ t.Arrives k here names m' there := by
  induction h generalizing k with
  | stop dir => exact ⟨k, hle, .stop dir⟩
  | into dir short _ ih =>
    obtain ⟨m', hm, hnext⟩ := ih hle
    exact ⟨m', hm, .into dir short hnext⟩
  | follow dir plain short link _ ih =>
    obtain ⟨k, rfl⟩ := Nat.exists_eq_add_of_lt hle
    obtain ⟨m', hm, hnext⟩ := ih (k := _) (Nat.le_add_right _ k)
    exact ⟨m', hm, .follow dir plain short link hnext⟩

theorem Arrives.append (h : t.Arrives n here xs k mid) (h' : t.Arrives k mid ys m there) :
    t.Arrives n here (xs ++ ys) m there := by
  induction h with
  | stop => exact h'
  | into dir short _ ih => exact .into dir short (ih h')
  | @follow n k here mid name rest target dir plain short link _ ih =>
    have hnext := ih h'
    rw [List.append_assoc] at hnext
    exact .follow dir plain short link hnext

/-- A walk can be taken apart between any two of its names. -/
theorem arrives_append :
    t.Arrives n here (xs ++ ys) m there ↔
      ∃ k mid, t.Arrives n here xs k mid ∧ t.Arrives k mid ys m there := by
  refine ⟨fun h => ?_, fun ⟨k, mid, h, h'⟩ => h.append h'⟩
  generalize hnames : xs ++ ys = names at h
  induction h generalizing xs with
  | @stop n here dir =>
    obtain ⟨rfl, rfl⟩ := List.append_eq_nil_iff.mp hnames
    exact ⟨n, here, .stop dir, .stop dir⟩
  | @into n m here there name rest dir short next ih =>
    cases xs with
    | nil =>
      obtain rfl := hnames
      exact ⟨n, here, .stop dir, .into dir short next⟩
    | cons x xs =>
      obtain ⟨rfl, rfl⟩ := List.cons.inj hnames
      obtain ⟨k, mid, h, h'⟩ := ih rfl
      exact ⟨k, mid, .into dir short h, h'⟩
  | @follow n m here there name rest target dir plain short link next ih =>
    cases xs with
    | nil =>
      obtain rfl := hnames
      exact ⟨n + 1, here, .stop dir, .follow dir plain short link next⟩
    | cons x xs =>
      obtain ⟨rfl, rfl⟩ := List.cons.inj hnames
      obtain ⟨k, mid, h, h'⟩ := ih (List.append_assoc _ _ _)
      exact ⟨k, mid, .follow dir plain short link h, h'⟩

/-- One name leads to where it stands, or is that of a link. -/
theorem Arrives.singleton (h : t.Arrives n here [name] m there) :
    m = n ∧ there = enter here name ∨
      (name ≠ utf8 "." ∧ name ≠ utf8 "..") ∧
        ∃ target, t.get? (here ++ [name]) = some (.link target) := by
  cases h with
  | into _ _ next =>
    cases next
    exact Or.inl ⟨rfl, rfl⟩
  | follow _ plain _ link => exact Or.inr ⟨plain, _, link⟩

/-- Names that lead through directories only use up no links. -/
theorem Leads.arrives (h : t.Leads here names there) (n : Nat) :
    t.Arrives n here names n there := by
  induction names generalizing here with
  | nil =>
    obtain ⟨hdir, rfl⟩ := h
    exact .stop hdir
  | cons name rest ih => exact .into h.1 h.2.1 (ih h.2.2)

/-! ## Walks -/

/-- A walk goes through a link to its target, with one link less to follow. -/
theorem walkFrom_follow (hdir : t.isDir here = true) (hplain : name ≠ utf8 "." ∧ name ≠ utf8 "..")
    (hshort : name.length ≤ maxName) (hlink : t.get? (here ++ [name]) = some (.link target)) :
    t.walkFrom (n + 1) here (name :: rest) =
      t.walkFrom n (if Path.isAbsolute target then [] else here) (pathNames target ++ rest) := by
  rw [walkFrom, walkNames, if_neg (by simp [hdir]), if_neg hplain.1, if_neg hplain.2,
    if_neg (Nat.not_lt.mpr hshort), hlink]

theorem walkFrom_of_arrives (h : t.Arrives n here names m there) (rest : List Bytes) :
    t.walkFrom n here (names ++ rest) = t.walkFrom m there rest := by
  induction h with
  | stop => rfl
  | @into n m here there name names dir short next ih =>
    have hone : t.Leads here [name] (enter here name) :=
      leads_singleton.mpr ⟨dir, short, next.isDir_start, rfl⟩
    rw [List.cons_append, ← ih]
    exact walkFrom_of_leads n hone (names ++ rest)
  | follow dir plain short link _ ih =>
    rw [List.cons_append, walkFrom_follow dir plain short link, ← List.append_assoc, ih]

theorem walkFrom_eq_found_of_arrives (h : t.Arrives n here names m there) :
    t.walkFrom n here names = .ok (.found there) := by
  have hwalk := walkFrom_of_arrives h []
  rw [List.append_nil] at hwalk
  rw [hwalk]
  cases m <;> simp [walkFrom, walkNames]

theorem exists_arrives_of_walkNames
    {follow : Location → Bytes → List Bytes → Except FileCause Destination}
    (hfollow : ∀ {here name target rest}, t.isDir here = true →
      (name ≠ utf8 "." ∧ name ≠ utf8 "..") → name.length ≤ maxName →
      t.get? (here ++ [name]) = some (.link target) → follow here target rest = .ok (.found there) →
      ∃ m, t.Arrives n here (name :: rest) m there)
    (h : t.walkNames follow here names = .ok (.found there)) (hdir : t.isDir there = true) :
    ∃ m, t.Arrives n here names m there := by
  induction names generalizing here with
  | nil =>
    rw [walkNames] at h
    cases h
    exact ⟨n, .stop hdir⟩
  | cons name names ih =>
    rw [walkNames] at h
    by_cases hhere : t.isDir here = true
    · rw [if_neg (by simp [hhere])] at h
      -- The name leads to a directory, unless it stands for a link.
      have hinto : name.length ≤ maxName →
          t.walkNames follow (enter here name) names = .ok (.found there) →
          ∃ m, t.Arrives n here (name :: names) m there := by
        intro hshort hwalk
        obtain ⟨m, hm⟩ := ih hwalk
        exact ⟨m, .into hhere hshort hm⟩
      by_cases hdot : name = utf8 "."
      · rw [if_pos hdot] at h
        refine hinto (by rw [hdot]; decide) ?_
        rw [hdot, enter_dot]
        exact h
      · rw [if_neg hdot] at h
        by_cases hdots : name = utf8 ".."
        · rw [if_pos hdots] at h
          refine hinto (by rw [hdots]; decide) ?_
          rw [hdots, enter_dots]
          exact h
        · rw [if_neg hdots] at h
          split at h
          · cases h
          · rename_i hlen
            have hshort := Nat.not_lt.mp hlen
            split at h
            · split at h <;> cases h
            · rename_i target hget
              exact hfollow hhere ⟨hdot, hdots⟩ hshort hget h
            · refine hinto hshort ?_
              rw [enter_plain here hdot hdots]
              exact h
    · rw [if_pos (by simp [hhere])] at h
      cases h

/-- A walk that finds a directory arrives there. -/
theorem exists_arrives_of_walkFrom (h : t.walkFrom n here names = .ok (.found there))
    (hdir : t.isDir there = true) : ∃ m, t.Arrives n here names m there := by
  induction n generalizing here names with
  | zero =>
    rw [walkFrom] at h
    refine exists_arrives_of_walkNames ?_ h hdir
    intro here name target rest _ _ _ _ hno
    cases hno
  | succ n ih =>
    rw [walkFrom] at h
    refine exists_arrives_of_walkNames ?_ h hdir
    intro here name target rest dir plain short link hwalk
    obtain ⟨m, hm⟩ := ih hwalk
    exact ⟨m, .follow dir plain short link hm⟩

theorem walkNames_congr {follow follow' : Location → Bytes → List Bytes → Except FileCause Destination}
    (hfollow : ∀ here target rest, follow here target rest ≠ .error .tooManyLinks →
      follow' here target rest = follow here target rest)
    (hne : t.walkNames follow here names ≠ .error .tooManyLinks) :
    t.walkNames follow' here names = t.walkNames follow here names := by
  induction names generalizing here with
  | nil => rfl
  | cons name names ih =>
    simp only [walkNames] at hne ⊢
    by_cases hdir : (!t.isDir here) = true
    · simp only [if_pos hdir]
    · simp only [if_neg hdir] at hne ⊢
      by_cases hdot : name = utf8 "."
      · simp only [if_pos hdot] at hne ⊢
        exact ih hne
      · simp only [if_neg hdot] at hne ⊢
        by_cases hdots : name = utf8 ".."
        · simp only [if_pos hdots] at hne ⊢
          exact ih hne
        · simp only [if_neg hdots] at hne ⊢
          by_cases hlen : name.length > maxName
          · simp only [if_pos hlen]
          · simp only [if_neg hlen] at hne ⊢
            cases hget : t.get? (here ++ [name]) with
            | none => rfl
            | some e =>
              rw [hget] at hne
              cases e with
              | link target => exact hfollow here target names hne
              | file data => exact ih hne
              | dir => exact ih hne

/-- More links to follow change nothing for a walk that had enough of them. -/
theorem walkFrom_mono (hle : n ≤ m) (hne : t.walkFrom n here names ≠ .error .tooManyLinks) :
    t.walkFrom m here names = t.walkFrom n here names := by
  induction n generalizing m here names with
  | zero =>
    cases m with
    | zero => rfl
    | succ m => exact walkNames_congr (fun _ _ _ hno => absurd rfl hno) hne
  | succ n ih =>
    cases m with
    | zero => exact absurd hle (Nat.not_succ_le_zero n)
    | succ m =>
      exact walkNames_congr (fun _ _ _ hfollow => ih (Nat.le_of_succ_le_succ hle) hfollow) hne

/-! ## Cleaning -/

/-- Behind the last of these names, does `..` lead elsewhere than to where the names before it lead? -/
def leadsAway (t : Tree) (start : Location) (before : List Bytes) (last : Bytes) : Bool :=
  match t.walkFrom maxLinks start before, t.walkFrom maxLinks start (before ++ [last]) with
  | .ok (.found here), .ok (.found there) => there.dropLast != here
  | _, _ => false

/-- Is there an element that cleaning drops together with the `..` behind it, although `..` leads away
from there? `done` holds the cleaned elements so far, the last one first. -/
def straysFrom (t : Tree) (rooted : Bool) (start : Location) (done : List Bytes) : List Bytes → Bool
  | [] => false
  | e :: es =>
    (match done with
      | [] => false
      | last :: before =>
        e = utf8 ".." && last != utf8 ".." && t.leadsAway start before.reverse last)
    || t.straysFrom rooted start (Path.addElement rooted done e) es

/-- Does cleaning the path drop an element behind which `..` leads away? -/
def cleanStrays (t : Tree) (p : Bytes) : Bool :=
  t.straysFrom (Path.isAbsolute p) (t.start p) [] (Bytes.splitOn Path.slash p)

/-- Names that lead through directories do not stray: what a `..` cancels has led into a subdirectory. -/
theorem straysFrom_of_leads {rooted : Bool} {es done : List Bytes} (hroot : rooted = true → here = [])
    (hdone : ∀ x ∈ done, x ≠ utf8 ".") (h : t.Leads here done.reverse mid)
    (hes : t.Leads mid (es.filter fun e => !e.isEmpty) there) :
    t.straysFrom rooted here done es = false := by
  induction es generalizing done mid with
  | nil => rfl
  | cons e es ih =>
    rw [straysFrom.eq_def]
    refine Bool.or_eq_false_iff.mpr ⟨?_, ?_⟩
    · cases done with
      | nil => rfl
      | cons last before =>
        by_cases hcancels : e = utf8 ".." ∧ last ≠ utf8 ".."
        · rw [List.reverse_cons] at h
          obtain ⟨start, hstart, hlast⟩ := leads_append.mp h
          obtain ⟨-, -, -, rfl⟩ := leads_singleton.mp hlast
          rw [enter_plain start (hdone last List.mem_cons_self) hcancels.2] at h
          simp [leadsAway, walkFrom_eq_found _ hstart, walkFrom_eq_found _ h]
        · simp only [Bool.and_eq_false_iff, decide_eq_false_iff_not, bne_eq_false_iff_eq]
          by_cases hdots : e = utf8 ".."
          · exact Or.inl (Or.inr (Decidable.not_not.mp fun hlast => hcancels ⟨hdots, hlast⟩))
          · exact Or.inl (Or.inl hdots)
    · by_cases hne : e = []
      · have hskip : Path.addElement rooted done e = done := by simp [Path.addElement, hne]
        rw [hskip]
        exact ih hdone h (by simpa [hne] using hes)
      · have hcons : (e :: es).filter (fun e => !e.isEmpty) = [e] ++ es.filter fun e => !e.isEmpty := by
          simp [hne]
        rw [hcons] at hes
        obtain ⟨next, hnext, hes⟩ := leads_append.mp hes
        refine ih (fun x hx => ?_) (h.addElement hroot hdone hne hnext) hes
        rcases Path.mem_addElement hx with hx | ⟨rfl, -, hx⟩
        · exact hdone x hx
        · exact hx

/-- Cleaning a path that meets no link does not stray. -/
theorem Leads.cleanStrays {p : Bytes} (h : t.Leads (t.start p) (pathNames p) there) :
    t.cleanStrays p = false := by
  have hroot : Path.isAbsolute p = true → t.start p = [] := fun habs => by rw [start, if_pos habs]
  exact straysFrom_of_leads hroot (by simp) ⟨h.isDir_start, rfl⟩ h.elements

theorem Arrives.dots (h : t.Arrives n here [utf8 ".."] m there) : m = n ∧ there = here.dropLast := by
  rcases h.singleton with ⟨rfl, rfl⟩ | ⟨⟨-, hno⟩, -⟩
  · exact ⟨rfl, enter_dots _⟩
  · exact absurd rfl hno

theorem Arrives.dot (h : t.Arrives n here [utf8 "."] m there) : m = n ∧ there = here := by
  rcases h.singleton with ⟨rfl, rfl⟩ | ⟨⟨hno, -⟩, -⟩
  · exact ⟨rfl, enter_dot _⟩
  · exact absurd rfl hno

/-- Where `..` does not lead away, it leads back to where the names before the last one lead. -/
theorem Arrives.back {last : Bytes} (h : t.Arrives maxLinks here (names ++ [last]) k mid)
    (haway : t.leadsAway here names last = false) :
    ∃ k', k ≤ k' ∧ t.Arrives maxLinks here names k' mid.dropLast := by
  obtain ⟨k', before, hbefore, hlast⟩ := arrives_append.mp h
  rw [leadsAway, walkFrom_eq_found_of_arrives hbefore, walkFrom_eq_found_of_arrives h] at haway
  have hback : mid.dropLast = before := by simpa using haway
  exact ⟨k', hlast.le, hback ▸ hbefore⟩

/-- Going on from where the cleaned elements so far lead. At the root `..` leads nowhere else, so a
rooted path can leave it out. -/
theorem Arrives.addElement {rooted : Bool} {done : List Bytes} {e : Bytes}
    (hroot : rooted = true → here = []) (h : t.Arrives maxLinks here done.reverse k mid)
    (he : t.Arrives k mid [e] m there)
    (hback : ∀ last before, done = last :: before → e = utf8 ".." → last ≠ utf8 ".." →
      t.leadsAway here before.reverse last = false) (hne : e ≠ []) :
    ∃ m', m ≤ m' ∧ t.Arrives maxLinks here (Path.addElement rooted done e).reverse m' there := by
  have hpush : t.Arrives maxLinks here (e :: done).reverse m there := by
    rw [List.reverse_cons]
    exact h.append he
  by_cases hdot : e = utf8 "."
  · subst hdot
    obtain ⟨rfl, rfl⟩ := he.dot
    rw [Path.addElement.eq_def, if_pos (by simp)]
    exact ⟨_, Nat.le_refl _, h⟩
  · rw [Path.addElement.eq_def, if_neg (by simp [hne, hdot])]
    by_cases hdots : e = utf8 ".."
    · rw [if_pos hdots]
      subst hdots
      cases done with
      | nil =>
        cases rooted with
        | false => exact ⟨m, Nat.le_refl m, hpush⟩
        | true =>
          obtain rfl := hroot rfl
          obtain ⟨rfl, rfl⟩ := he.dots
          cases h
          exact ⟨_, Nat.le_refl _, .stop rfl⟩
      | cons last before =>
        by_cases hlast : last = utf8 ".."
        · simp only [if_pos hlast]
          exact ⟨m, Nat.le_refl m, hpush⟩
        · simp only [if_neg hlast]
          obtain ⟨rfl, rfl⟩ := he.dots
          rw [List.reverse_cons] at h
          exact h.back (hback last before rfl rfl hlast)
    · rw [if_neg hdots]
      exact ⟨m, Nat.le_refl m, hpush⟩

theorem Arrives.foldl_addElement {rooted : Bool} {es done : List Bytes}
    (hroot : rooted = true → here = []) (h : t.Arrives maxLinks here done.reverse k mid)
    (hes : t.Arrives k mid (es.filter fun e => !e.isEmpty) m there)
    (hstrays : t.straysFrom rooted here done es = false) :
    ∃ m', m ≤ m' ∧
      t.Arrives maxLinks here (es.foldl (Path.addElement rooted) done).reverse m' there := by
  induction es generalizing done k m mid with
  | nil =>
    cases hes
    exact ⟨_, Nat.le_refl _, h⟩
  | cons e es ih =>
    rw [straysFrom.eq_def] at hstrays
    obtain ⟨hnow, hlater⟩ := Bool.or_eq_false_iff.mp hstrays
    rw [List.foldl_cons]
    by_cases hne : e = []
    · have hskip : Path.addElement rooted done e = done := by simp [Path.addElement, hne]
      rw [hskip] at hlater ⊢
      refine ih h ?_ hlater
      simpa [hne] using hes
    · have hcons : (e :: es).filter (fun e => !e.isEmpty) = [e] ++ es.filter fun e => !e.isEmpty := by
        simp [hne]
      rw [hcons] at hes
      obtain ⟨k₁, next, hnext, hes⟩ := arrives_append.mp hes
      have hback : ∀ last before, done = last :: before → e = utf8 ".." → last ≠ utf8 ".." →
          t.leadsAway here before.reverse last = false := by
        rintro last before rfl hdots hlast
        simpa [hdots, hlast] using hnow
      obtain ⟨k₂, hk, hdone⟩ := h.addElement hroot hnext hback hne
      -- The cleaned elements may have followed fewer links, and then more are left for the others.
      obtain ⟨m₂, hm, hes⟩ := hes.mono hk
      obtain ⟨m', hm', hall⟩ := ih hdone hes hlater
      exact ⟨m', Nat.le_trans hm hm', hall⟩

/-- Cleaning a path, where it does not stray, does not change where the path leads, and no more links
are followed. -/
theorem Arrives.cleanElements {p : Bytes} (h : t.Arrives maxLinks (t.start p) (pathNames p) m there)
    (hstrays : t.cleanStrays p = false) :
    ∃ m', m ≤ m' ∧ t.Arrives maxLinks (t.start p) (Path.cleanElements p) m' there := by
  have hnames : t.Arrives maxLinks (t.start p)
      ((Bytes.splitOn Path.slash p).filter fun e => !e.isEmpty) m there := by
    unfold pathNames at h
    simp only at h
    split at h
    · obtain ⟨k, mid, hmid, hdot⟩ := arrives_append.mp h
      obtain ⟨rfl, rfl⟩ := hdot.dot
      exact hmid
    · exact h
  have hroot : Path.isAbsolute p = true → t.start p = [] := fun habs => by rw [start, if_pos habs]
  exact Arrives.foldl_addElement hroot (.stop hnames.isDir_start) hnames hstrays

/-! ## A name under a directory -/

/-- The path leads to a directory, and so does the cleaned path; so many links may be followed from
there on. -/
structure Opens (t : Tree) (dir : Bytes) (links : Nat) (there : Location) : Prop where
  ne_nil : dir ≠ []
  noNul : 0 ∉ dir
  arrives : t.Arrives maxLinks (t.start dir) (Path.cleanElements dir) links there

variable {dir : Bytes} {links : Nat}

theorem exists_opens (hlocate : t.locate dir = .ok there) (hdir : t.isDir there = true)
    (hstrays : t.cleanStrays dir = false) : ∃ links, t.Opens dir links there := by
  obtain ⟨hne, hnul, -, hwalk⟩ := walk_eq_ok (locate_eq_ok hlocate)
  obtain ⟨m, harrives⟩ := exists_arrives_of_walkFrom hwalk hdir
  obtain ⟨links, -, hclean⟩ := harrives.cleanElements hstrays
  exact ⟨links, hne, hnul, hclean⟩

/-- A text that can be the name of an entry. -/
structure IsFileName (name : Bytes) : Prop where
  ne_nil : name ≠ []
  ne_dot : name ≠ utf8 "."
  ne_dots : name ≠ utf8 ".."
  noSlash : Path.slash ∉ name
  noNul : 0 ∉ name
  short : name.length ≤ maxName

instance (name : Bytes) : Decidable (IsFileName name) :=
  decidable_of_iff
    (name ≠ [] ∧ name ≠ utf8 "." ∧ name ≠ utf8 ".." ∧ Path.slash ∉ name ∧ 0 ∉ name ∧
      name.length ≤ maxName)
    ⟨fun ⟨hne, hdot, hdots, hslash, hnul, hshort⟩ => ⟨hne, hdot, hdots, hslash, hnul, hshort⟩,
      fun h => ⟨h.ne_nil, h.ne_dot, h.ne_dots, h.noSlash, h.noNul, h.short⟩⟩

theorem start_join (hne : dir ≠ []) (name : Bytes) : t.start (Path.join dir name) = t.start dir := by
  unfold start
  rw [Path.join_eq_clean hne, Path.isAbsolute_clean, Path.isAbsolute_append hne]

theorem noNul_join (hne : dir ≠ []) (hdir : 0 ∉ dir) (hname : 0 ∉ name) : 0 ∉ Path.join dir name := by
  intro hmem
  rw [Path.join_eq_clean hne] at hmem
  rcases Path.mem_clean hmem with hmem | hmem | hmem
  · rcases List.mem_append.mp hmem with hmem | hmem
    · exact hdir hmem
    · rcases List.mem_cons.mp hmem with hmem | hmem
      · exact absurd hmem (by decide)
      · exact hname hmem
  · exact absurd hmem (by decide)
  · exact absurd hmem (by decide)

/-- The names of a joined path lead to the directory and ask it for the last one. -/
theorem Opens.walkFrom_join (h : t.Opens dir links there) (hslash : Path.slash ∉ name) (hne : name ≠ [])
    (hdot : name ≠ utf8 ".") (hdots : name ≠ utf8 "..") :
    t.walkFrom maxLinks (t.start (Path.join dir name)) (pathNames (Path.join dir name))
      = t.walkFrom links there [name] := by
  have helems := Path.cleanElements_join h.ne_nil hslash hne hdot hdots
  rw [start_join h.ne_nil, Path.join_eq_clean h.ne_nil, pathNames_clean, if_neg (by simp [helems]),
    helems]
  exact walkFrom_of_arrives h.arrives [name]

/-- A name that is joined to the path of a directory is looked up in that directory. -/
theorem Opens.walk_join (h : t.Opens dir links there) (hname : IsFileName name)
    (hlen : (Path.join dir name).length ≤ maxPath) :
    t.walk (Path.join dir name) = t.walkFrom links there [name] := by
  have hnul := noNul_join h.ne_nil h.noNul hname.noNul
  rw [walk, if_neg (by simpa using Path.join_ne_nil hname.ne_nil), if_neg (by simpa using hnul),
    if_neg (Nat.not_lt.mpr hlen)]
  exact h.walkFrom_join hname.noSlash hname.ne_nil hname.ne_dot hname.ne_dots

/-! ## Trees that grow -/

/-- Whatever stands in the one tree stands in the other. -/
structure Extends (t t' : Tree) : Prop where
  cwd : t'.cwd = t.cwd
  keeps : ∀ l e, t.get? l = some e → t'.get? l = some e

variable {t' : Tree} {l : Location} {e : Entry}

theorem Extends.isDir (h : t.Extends t') (hdir : t.isDir l = true) : t'.isDir l = true := by
  unfold Tree.isDir at hdir ⊢
  rw [h.keeps l .dir (by simpa using hdir)]
  rfl

theorem Extends.start (h : t.Extends t') (p : Bytes) : t'.start p = t.start p := by
  unfold Tree.start
  rw [h.cwd]

theorem Arrives.extends (h : t.Arrives n here names m there) (ht : t.Extends t') :
    t'.Arrives n here names m there := by
  induction h with
  | stop dir => exact .stop (ht.isDir dir)
  | into dir short _ ih => exact .into (ht.isDir dir) short ih
  | follow dir plain short link _ ih => exact .follow (ht.isDir dir) plain short (ht.keeps _ _ link) ih

theorem Opens.extends (h : t.Opens dir links there) (ht : t.Extends t') : t'.Opens dir links there := by
  refine ⟨h.ne_nil, h.noNul, ?_⟩
  rw [ht.start]
  exact h.arrives.extends ht

/-- In a larger tree a path leads to the same directory. -/
theorem Extends.locate (ht : t.Extends t') (hlocate : t.locate dir = .ok there)
    (hdir : t.isDir there = true) : t'.locate dir = .ok there := by
  obtain ⟨hne, hnul, hlen, hwalk⟩ := walk_eq_ok (locate_eq_ok hlocate)
  obtain ⟨m, harrives⟩ := exists_arrives_of_walkFrom hwalk hdir
  have hwalk' : t'.walk dir = .ok (.found there) := by
    rw [walk, if_neg (by simpa using hne), if_neg (by simpa using hnul),
      if_neg (Nat.not_lt.mpr hlen)]
    have hall := walkFrom_eq_found_of_arrives (harrives.extends ht)
    rw [← ht.start] at hall
    exact hall
  rw [Tree.locate, hwalk']

/-- Nothing is lost when an entry is put where nothing stood. -/
theorem extends_put (hfree : t.get? l = none) (e : Entry) : t.Extends (t.put l e) := by
  refine ⟨put_cwd t l e, fun l' e' hget => ?_⟩
  have hne : l' ≠ l := by
    rintro rfl
    rw [hfree] at hget
    cases hget
  rw [get?_put_ne t hne]
  exact hget

/-- A file of a new name is written into the directory. -/
theorem Opens.writeFile (h : t.Opens dir links there) (hname : IsFileName name)
    (hlen : (Path.join dir name).length ≤ maxPath) (hfree : t.get? (there ++ [name]) = none)
    (data : Bytes) :
    t.writeFile (Path.join dir name) data = .ok (t.put (there ++ [name]) (.file data)) := by
  have hwalk := h.walk_join hname hlen
  rw [walkFrom_singleton links h.arrives.isDir_end hname.ne_dot hname.ne_dots (by simp [hfree]),
    if_neg (Nat.not_lt.mpr hname.short), if_pos hfree] at hwalk
  rw [Tree.writeFile, hwalk]

end Golden.Tree
