import Golden.Files.Path
import Golden.Files.Tree

/-!
# Cleaned paths

What joining and cleaning do to the elements of a path. A plain name that is joined to a directory
becomes the last element, behind the cleaned elements of the directory (`cleanElements_join`), and a
cleaned path asks for its elements in turn (`pathNames_clean`).
-/

namespace Golden

/-! ## Splitting what was joined -/

namespace Bytes

theorem splitOn_of_not_mem {sep : UInt8} {s : Bytes} (h : sep ∉ s) : splitOn sep s = [s] := by
  induction s with
  | nil => rfl
  | cons b s ih =>
    rw [List.mem_cons, not_or] at h
    simp only [splitOn, if_neg (Ne.symm h.1), ih h.2]

theorem splitOn_append_cons (sep : UInt8) (s t : Bytes) :
    splitOn sep (s ++ sep :: t) = splitOn sep s ++ splitOn sep t := by
  induction s with
  | nil => simp [splitOn]
  | cons b s ih =>
    by_cases hb : b = sep
    · simp [splitOn, hb, ih]
    · simp only [List.cons_append, splitOn, if_neg hb, ih]
      cases hs : splitOn sep s with
      | nil => exact absurd hs (splitOn_ne_nil sep s)
      | cons p ps => rfl

/-- No piece holds the separator. -/
theorem not_mem_of_mem_splitOn {sep : UInt8} {s p : Bytes} (h : p ∈ splitOn sep s) : sep ∉ p := by
  induction s generalizing p with
  | nil =>
    simp only [splitOn, List.mem_singleton] at h
    simp [h]
  | cons b s ih =>
    unfold splitOn at h
    split at h
    · rcases List.mem_cons.mp h with rfl | h
      · simp
      · exact ih h
    · rename_i hb
      split at h
      · rename_i hs
        exact absurd hs (splitOn_ne_nil sep s)
      · rename_i q qs hs
        have hq := @ih
        rw [hs] at hq
        rcases List.mem_cons.mp h with rfl | h
        · rw [List.mem_cons, not_or]
          exact ⟨Ne.symm hb, hq List.mem_cons_self⟩
        · exact hq (List.mem_cons_of_mem _ h)

theorem join_cons_cons (sep p q : Bytes) (ps : List Bytes) :
    join sep (p :: q :: ps) = p ++ sep ++ join sep (q :: ps) := rfl

theorem mem_join_of_mem {sep p : Bytes} {x : UInt8} {ps : List Bytes} (hp : p ∈ ps) (hx : x ∈ p) :
    x ∈ join sep ps := by
  induction ps with
  | nil => cases hp
  | cons q ps ih =>
    cases ps with
    | nil => rw [← List.mem_singleton.mp hp]; exact hx
    | cons r ps =>
      rw [join_cons_cons, List.mem_append, List.mem_append]
      rcases List.mem_cons.mp hp with rfl | hp
      · exact Or.inl (Or.inl hx)
      · exact Or.inr (ih hp)

theorem mem_of_mem_join {sep : Bytes} {x : UInt8} {ps : List Bytes} (h : x ∈ join sep ps) :
    x ∈ sep ∨ ∃ p ∈ ps, x ∈ p := by
  induction ps with
  | nil => cases h
  | cons p ps ih =>
    cases ps with
    | nil => exact .inr ⟨p, List.mem_cons_self, h⟩
    | cons q ps =>
      rw [join_cons_cons, List.mem_append, List.mem_append] at h
      rcases h with (h | h) | h
      · exact .inr ⟨p, List.mem_cons_self, h⟩
      · exact .inl h
      · exact (ih h).imp_right fun ⟨r, hr, hx⟩ => ⟨r, List.mem_cons_of_mem p hr, hx⟩

/-- Every byte of a piece is one of the text. -/
theorem mem_of_mem_splitOn {sep x : UInt8} {s p : Bytes} (h : p ∈ splitOn sep s) (hx : x ∈ p) :
    x ∈ s := by
  rw [← join_splitOn sep s]
  exact mem_join_of_mem h hx

/-- Splitting gives back the joined pieces, none of which holds the separator. -/
theorem splitOn_join {sep : UInt8} {ps : List Bytes} (hne : ps ≠ []) (h : ∀ p ∈ ps, sep ∉ p) :
    splitOn sep (join [sep] ps) = ps := by
  induction ps with
  | nil => exact absurd rfl hne
  | cons p ps ih =>
    have hp := splitOn_of_not_mem (h p List.mem_cons_self)
    cases ps with
    | nil => exact hp
    | cons q ps =>
      rw [join_cons_cons, List.append_assoc, List.singleton_append, splitOn_append_cons, hp,
        ih (by simp) (fun x hx => h x (List.mem_cons_of_mem _ hx))]
      rfl

theorem join_append_singleton (sep p : Bytes) {ps : List Bytes} (hne : ps ≠ []) :
    join sep (ps ++ [p]) = join sep ps ++ sep ++ p := by
  induction ps with
  | nil => exact absurd rfl hne
  | cons q ps ih =>
    cases ps with
    | nil => rfl
    | cons r ps =>
      show q ++ sep ++ join sep (r :: ps ++ [p]) = _
      rw [ih (by simp), join_cons_cons]
      simp

theorem length_join_replicate (sep : UInt8) (p : Bytes) (n : Nat) :
    (join [sep] (List.replicate (n + 1) p)).length + 1 = (n + 1) * (p.length + 1) := by
  induction n with
  | zero => simp [join]
  | succ n ih =>
    rw [List.replicate_succ, List.replicate_succ, join_cons_cons, ← List.replicate_succ,
      Nat.succ_mul, ← ih]
    simp only [List.length_append, List.length_singleton]
    omega

theorem mem_join_singleton {sep x : UInt8} {ps : List Bytes} (h : x ∈ join [sep] ps) :
    x = sep ∨ ∃ p ∈ ps, x ∈ p := by
  induction ps with
  | nil => cases h
  | cons p ps ih =>
    cases ps with
    | nil => exact Or.inr ⟨p, List.mem_cons_self, h⟩
    | cons q ps =>
      rw [join_cons_cons, List.mem_append, List.mem_append, List.mem_singleton] at h
      rcases h with (h | h) | h
      · exact Or.inr ⟨p, List.mem_cons_self, h⟩
      · exact Or.inl h
      · rcases ih h with h | ⟨r, hr, h⟩
        · exact Or.inl h
        · exact Or.inr ⟨r, List.mem_cons_of_mem _ hr, h⟩

end Bytes

namespace Path

/-! ## Elements -/

theorem mem_addElement {rooted : Bool} {done : List Bytes} {e x : Bytes}
    (h : x ∈ addElement rooted done e) : x ∈ done ∨ x = e ∧ e ≠ [] ∧ e ≠ utf8 "." := by
  unfold addElement at h
  split at h
  · exact Or.inl h
  · rename_i hplain
    simp only [Bool.or_eq_true, decide_eq_true_eq, not_or] at hplain
    split at h
    · split at h
      · split at h
        · cases h
        · exact Or.inr ⟨List.mem_singleton.mp h, hplain⟩
      · split at h
        · rcases List.mem_cons.mp h with rfl | h
          · exact Or.inr ⟨rfl, hplain⟩
          · exact Or.inl h
        · exact Or.inl (List.mem_cons_of_mem _ h)
    · rcases List.mem_cons.mp h with rfl | h
      · exact Or.inr ⟨rfl, hplain⟩
      · exact Or.inl h

theorem mem_foldl_addElement {rooted : Bool} {es done : List Bytes} {x : Bytes}
    (h : x ∈ es.foldl (addElement rooted) done) :
    x ∈ done ∨ x ∈ es ∧ x ≠ [] ∧ x ≠ utf8 "." := by
  induction es generalizing done with
  | nil => exact Or.inl h
  | cons e es ih =>
    rcases ih h with h | ⟨h, hx⟩
    · rcases mem_addElement h with h | ⟨rfl, hx⟩
      · exact Or.inl h
      · exact Or.inr ⟨List.mem_cons_self, hx⟩
    · exact Or.inr ⟨List.mem_cons_of_mem _ h, hx⟩

/-- The elements of a cleaned path are elements of the path, neither empty nor `.`. -/
theorem mem_cleanElements {p x : Bytes} (h : x ∈ cleanElements p) :
    x ∈ Bytes.splitOn slash p ∧ x ≠ [] ∧ x ≠ utf8 "." := by
  rcases mem_foldl_addElement (List.mem_reverse.mp h) with h | h
  · cases h
  · exact h

theorem slash_not_mem_cleanElements {p x : Bytes} (h : x ∈ cleanElements p) : slash ∉ x :=
  Bytes.not_mem_of_mem_splitOn (mem_cleanElements h).1

theorem foldl_addElement_of_plain (rooted : Bool) (es done : List Bytes)
    (h : ∀ e ∈ es, e ≠ [] ∧ e ≠ utf8 "." ∧ e ≠ utf8 "..") :
    es.foldl (addElement rooted) done = es.reverse ++ done := by
  induction es generalizing done with
  | nil => rfl
  | cons e es ih =>
    obtain ⟨hne, hdot, hdots⟩ := h e List.mem_cons_self
    have hadd : addElement rooted done e = e :: done := by
      rw [addElement.eq_def, if_neg (by simp [hne, hdot]), if_neg hdots]
    rw [List.foldl_cons, hadd, ih _ fun x hx => h x (List.mem_cons_of_mem _ hx)]
    simp

/-- Plain names that are joined to a path are its elements. -/
theorem cleanElements_join_elements {es : List Bytes} (hne : es ≠ []) (hslash : ∀ e ∈ es, slash ∉ e)
    (h : ∀ e ∈ es, e ≠ [] ∧ e ≠ utf8 "." ∧ e ≠ utf8 "..") :
    cleanElements (Bytes.join [slash] es) = es := by
  rw [cleanElements, Bytes.splitOn_join hne hslash, foldl_addElement_of_plain _ _ _ h]
  simp

/-! ## A name under a directory -/

theorem isAbsolute_append {dir : Bytes} (hdir : dir ≠ []) (s : Bytes) :
    isAbsolute (dir ++ s) = isAbsolute dir := by
  obtain ⟨b, dir, rfl⟩ := List.exists_cons_of_ne_nil hdir
  rfl

theorem join_eq_clean {dir : Bytes} (hdir : dir ≠ []) (name : Bytes) :
    join dir name = clean (dir ++ slash :: name) := by
  rw [join, if_neg (by simpa using hdir)]

/-- A name without a separator is one more element. -/
theorem cleanElements_append {dir name : Bytes} (hdir : dir ≠ []) (hname : slash ∉ name) :
    cleanElements (dir ++ slash :: name)
      = (addElement (isAbsolute dir) (cleanElements dir).reverse name).reverse := by
  unfold cleanElements
  rw [Bytes.splitOn_append_cons, Bytes.splitOn_of_not_mem hname, List.foldl_append,
    isAbsolute_append hdir, List.reverse_reverse]
  rfl

/-- A plain name that is joined to a directory becomes the last element. -/
theorem cleanElements_join {dir name : Bytes} (hdir : dir ≠ []) (hname : slash ∉ name)
    (hne : name ≠ []) (hdot : name ≠ utf8 ".") (hdots : name ≠ utf8 "..") :
    cleanElements (dir ++ slash :: name) = cleanElements dir ++ [name] := by
  rw [cleanElements_append hdir hname, addElement.eq_def, if_neg (by simp [hne, hdot]),
    if_neg hdots, List.reverse_cons, List.reverse_reverse]

theorem cleanElements_join_dot {dir : Bytes} (hdir : dir ≠ []) :
    cleanElements (dir ++ slash :: utf8 ".") = cleanElements dir := by
  rw [cleanElements_append hdir (by decide), addElement.eq_def, if_pos (by simp),
    List.reverse_reverse]

/-! ## The cleaned text -/

theorem clean_ne_nil (p : Bytes) : clean p ≠ [] := by
  unfold clean
  simp only
  split
  · simp
  · split
    · decide
    · rename_i hbody
      simpa using hbody

theorem join_ne_nil {dir name : Bytes} (h : name ≠ []) : join dir name ≠ [] := by
  unfold join
  split
  · rw [if_neg (by simpa using h)]
    exact clean_ne_nil _
  · exact clean_ne_nil _

/-- Joined elements end with a byte of the last one, so they neither are empty nor end in a
separator. -/
theorem join_elements_getLast? {es : List Bytes} (hne : es ≠ [])
    (he : ∀ e ∈ es, e ≠ [] ∧ slash ∉ e) :
    ∃ b, (Bytes.join [slash] es).getLast? = some b ∧ b ≠ slash := by
  obtain ⟨init, last, rfl⟩ : ∃ init last, es = init ++ [last] :=
    ⟨es.dropLast, es.getLast hne, (List.dropLast_concat_getLast hne).symm⟩
  obtain ⟨hlast, hslash⟩ := he last (by simp)
  obtain ⟨front, hfront⟩ : ∃ front, Bytes.join [slash] (init ++ [last]) = front ++ last := by
    by_cases hinit : init = []
    · exact ⟨[], by rw [hinit]; rfl⟩
    · exact ⟨_, Bytes.join_append_singleton [slash] last hinit⟩
  refine ⟨last.getLast hlast, ?_, ?_⟩
  · rw [hfront, List.getLast?_append, List.getLast?_eq_some_getLast hlast]
    rfl
  · intro h
    exact hslash (h ▸ List.getLast_mem hlast)

theorem cleanElements_forall (p : Bytes) : ∀ e ∈ cleanElements p, e ≠ [] ∧ slash ∉ e :=
  fun _ he => ⟨(mem_cleanElements he).2.1, slash_not_mem_cleanElements he⟩

theorem join_cleanElements_isEmpty {p : Bytes} :
    (Bytes.join [slash] (cleanElements p)).isEmpty = true ↔ cleanElements p = [] := by
  constructor
  · intro h
    by_cases hne : cleanElements p = []
    · exact hne
    · obtain ⟨b, hb, -⟩ := join_elements_getLast? hne (cleanElements_forall p)
      rw [List.isEmpty_iff.mp h] at hb
      cases hb
  · intro h
    rw [h]
    rfl

theorem clean_eq (p : Bytes) :
    clean p = if isAbsolute p then slash :: Bytes.join [slash] (cleanElements p)
      else if cleanElements p = [] then utf8 "." else Bytes.join [slash] (cleanElements p) := by
  unfold clean
  simp only [join_cleanElements_isEmpty]

/-- A byte of a cleaned path stood in the path, is a separator, or is the dot of the empty one. -/
theorem mem_clean {p : Bytes} {x : UInt8} (h : x ∈ clean p) :
    x ∈ p ∨ x = slash ∨ x ∈ utf8 "." := by
  have hjoin : x ∈ Bytes.join [slash] (cleanElements p) → x ∈ p ∨ x = slash ∨ x ∈ utf8 "." := by
    intro hx
    rcases Bytes.mem_join_singleton hx with hx | ⟨e, he, hx⟩
    · exact Or.inr (Or.inl hx)
    · exact Or.inl (Bytes.mem_of_mem_splitOn (mem_cleanElements he).1 hx)
  rw [clean_eq] at h
  split at h
  · rcases List.mem_cons.mp h with h | h
    · exact Or.inr (Or.inl h)
    · exact hjoin h
  · split at h
    · exact Or.inr (Or.inr h)
    · exact hjoin h

theorem mem_clean_of_mem_cleanElements {p e : Bytes} {x : UInt8} (he : e ∈ cleanElements p)
    (hx : x ∈ e) : x ∈ clean p := by
  have hne : cleanElements p ≠ [] := List.ne_nil_of_mem he
  have hjoin : x ∈ Bytes.join [slash] (cleanElements p) := Bytes.mem_join_of_mem he hx
  rw [clean_eq, if_neg hne]
  split
  · exact List.mem_cons_of_mem _ hjoin
  · exact hjoin

@[simp] theorem isAbsolute_clean (p : Bytes) : isAbsolute (clean p) = isAbsolute p := by
  rw [clean_eq]
  by_cases habs : isAbsolute p = true
  · rw [if_pos habs, habs]
    rfl
  · rw [if_neg habs, Bool.eq_false_iff.mpr habs]
    split
    · decide
    · rename_i hne
      obtain ⟨e, es, hes⟩ := List.exists_cons_of_ne_nil hne
      obtain ⟨hnil, hslash⟩ := cleanElements_forall p e (by rw [hes]; exact List.mem_cons_self)
      obtain ⟨b, e', rfl⟩ := List.exists_cons_of_ne_nil hnil
      rw [List.mem_cons, not_or] at hslash
      rw [hes]
      cases es <;> simp [Bytes.join, isAbsolute, Ne.symm hslash.1]

end Path

/-! ## Asking for the elements of a cleaned path -/

theorem Tree.pathNames_join_elements {es : List Bytes} (hne : es ≠ [])
    (he : ∀ e ∈ es, e ≠ [] ∧ Path.slash ∉ e) :
    pathNames (Bytes.join [Path.slash] es) = es ∧
      pathNames (Path.slash :: Bytes.join [Path.slash] es) = es := by
  obtain ⟨b, hb, hbs⟩ := Path.join_elements_getLast? hne he
  have hsplit : Bytes.splitOn Path.slash (Bytes.join [Path.slash] es) = es :=
    Bytes.splitOn_join hne fun e h => (he e h).2
  have hfilter : es.filter (fun e => !e.isEmpty) = es := by
    rw [List.filter_eq_self]
    intro e h
    simpa using (he e h).1
  have hlast : (Path.slash :: Bytes.join [Path.slash] es).getLast? = some b := by
    rw [List.getLast?_cons, hb]
    rfl
  constructor
  · simp [pathNames, hsplit, hfilter, hb, hbs]
  · have hcons : Bytes.splitOn Path.slash (Path.slash :: Bytes.join [Path.slash] es) = [] :: es := by
      rw [Bytes.splitOn, if_pos rfl, hsplit]
    simp [pathNames, hcons, hfilter, hlast, hbs]

/-- A cleaned path asks for its elements in turn; only the path without any asks for `.`. -/
theorem Tree.pathNames_clean (p : Bytes) :
    pathNames (Path.clean p) =
      if Path.isAbsolute p = false ∧ Path.cleanElements p = [] then [utf8 "."]
      else Path.cleanElements p := by
  rw [Path.clean_eq]
  by_cases hne : Path.cleanElements p = []
  · rw [hne]
    cases Path.isAbsolute p <;> rfl
  · obtain ⟨hrel, habs⟩ := pathNames_join_elements hne (Path.cleanElements_forall p)
    have hnot : ¬(Path.isAbsolute p = false ∧ Path.cleanElements p = []) := fun h => hne h.2
    rw [if_neg hnot, if_neg hne]
    split
    · exact habs
    · exact hrel

end Golden
