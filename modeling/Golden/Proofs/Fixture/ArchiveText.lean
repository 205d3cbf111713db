import Golden.Fixture.Archive

/-!
# Archives as texts

An archive is written as its comment, and then each member as its marker line and its content
(`Archive.text`). Reading takes lines, and a text that ends where a line ends has its own lines, whatever
comes behind it (`lines_append`). So the members come back as they are, if their contents are such texts
and hold no marker line, and if their names are what a marker line gives back (`parse_text`).
-/

namespace Golden.Archive

/-! ## Lines -/

/-- The text ends where a line ends. -/
def EndsLine (s : Bytes) : Prop := s = [] ∨ s.getLast? = some 0x0a

instance (s : Bytes) : Decidable (EndsLine s) := inferInstanceAs (Decidable (_ ∨ _))

variable {b : UInt8} {s t name : Bytes} {ls rest : List Bytes}

theorem EndsLine.of_cons (h : EndsLine (b :: s)) : EndsLine s := by
  cases s with
  | nil => exact Or.inl rfl
  | cons c s =>
    rcases h with h | h
    · cases h
    · rw [List.getLast?_cons_cons] at h
      exact Or.inr h

theorem lines_newline (s : Bytes) : lines (0x0a :: s) = [0x0a] :: lines s := rfl

theorem lines_ne_nil (h : s ≠ []) : lines s ≠ [] := by
  cases s with
  | nil => exact absurd rfl h
  | cons b s =>
    unfold lines
    split
    · exact List.cons_ne_nil _ _
    · split
      · exact List.cons_ne_nil _ _
      · exact List.cons_ne_nil _ _

/-- A byte that does not end a line comes in front of the first line behind it. -/
theorem lines_cons (hb : b ≠ 0x0a) (h : lines s = t :: ls) : lines (b :: s) = (b :: t) :: ls := by
  rw [lines, if_neg (show b ≠ ('\n' : UInt8) from hb), h]

/-- A text that ends where a line ends has its lines, whatever comes behind it. -/
theorem lines_append (h : EndsLine s) (t : Bytes) : lines (s ++ t) = lines s ++ lines t := by
  induction s with
  | nil => rfl
  | cons b s ih =>
    have hrest := ih h.of_cons
    by_cases hb : b = 0x0a
    · subst hb
      rw [List.cons_append, lines_newline, lines_newline, hrest, List.cons_append]
    · have hne : s ≠ [] := by
        rintro rfl
        rcases h with h | h
        · cases h
        · exact hb (Option.some.inj h)
      obtain ⟨l, ls, hlines⟩ := List.exists_cons_of_ne_nil (lines_ne_nil hne)
      rw [hlines, List.cons_append] at hrest
      rw [List.cons_append, lines_cons hb hrest, lines_cons hb hlines, List.cons_append]

/-- A line is one line. -/
theorem lines_concat (h : 0x0a ∉ s) : lines (s ++ [0x0a]) = [s ++ [0x0a]] := by
  induction s with
  | nil => rfl
  | cons b s ih =>
    rw [List.mem_cons, not_or] at h
    exact lines_cons (Ne.symm h.1) (ih h.2)

theorem flatten_lines (s : Bytes) : (lines s).flatten = s := by
  induction s with
  | nil => rfl
  | cons b s ih =>
    by_cases hb : b = 0x0a
    · subst hb
      rw [lines_newline, List.flatten_cons, ih, List.singleton_append]
    · cases hlines : lines s with
      | nil =>
        rw [hlines] at ih
        obtain rfl : s = [] := ih.symm
        rw [lines, if_neg (show b ≠ ('\n' : UInt8) from hb)]
        rfl
      | cons l ls =>
        rw [lines_cons hb hlines, List.flatten_cons, List.cons_append, ← List.flatten_cons, ← hlines, ih]

theorem withNewline_of_endsLine (h : EndsLine s) : withNewline s = s := by
  unfold withNewline
  rw [if_pos]
  rcases h with rfl | h
  · rfl
  · simp [h]

/-! ## Marker lines -/

/-- The line that starts a member. -/
def markerLine (name : Bytes) : Bytes := utf8 "-- " ++ name ++ utf8 " --" ++ [0x0a]

/-- A text that can stand between two marker lines: it ends where a line ends, and none of its lines is a
marker line. -/
structure IsBlock (s : Bytes) : Prop where
  ends : EndsLine s
  plain : ∀ line ∈ lines s, markerName? line = none

instance (s : Bytes) : Decidable (IsBlock s) :=
  decidable_of_iff (EndsLine s ∧ ∀ line ∈ lines s, markerName? line = none)
    ⟨fun ⟨hends, hplain⟩ => ⟨hends, hplain⟩, fun h => ⟨h.ends, h.plain⟩⟩

/-- A name that is found again in its marker line. -/
structure IsMarked (name : Bytes) : Prop where
  ne_nil : name ≠ []
  trimmed : trimSpace name = name
  noNewline : 0x0a ∉ name

instance (name : Bytes) : Decidable (IsMarked name) :=
  decidable_of_iff (name ≠ [] ∧ trimSpace name = name ∧ 0x0a ∉ name)
    ⟨fun ⟨hne, htrim, hnewline⟩ => ⟨hne, htrim, hnewline⟩,
      fun h => ⟨h.ne_nil, h.trimmed, h.noNewline⟩⟩

theorem lines_markerLine (h : IsMarked name) : lines (markerLine name) = [markerLine name] := by
  refine lines_concat fun hmem => ?_
  rcases List.mem_append.mp hmem with hmem | hmem
  · rcases List.mem_append.mp hmem with hmem | hmem
    · exact absurd hmem (by decide)
    · exact h.noNewline hmem
  · exact absurd hmem (by decide)

theorem endsLine_markerLine (name : Bytes) : EndsLine (markerLine name) :=
  Or.inr List.getLast?_concat

theorem markerName?_markerLine (h : IsMarked name) : markerName? (markerLine name) = some name := by
  have hlast : (markerLine name).getLast? = some 0x0a := List.getLast?_concat
  have hline : (markerLine name).dropLast = utf8 "-- " ++ name ++ utf8 " --" := List.dropLast_concat
  have hlength : (utf8 "-- " ++ name ++ utf8 " --").length = name.length + 6 := by
    have h3 : (utf8 "-- ").length = 3 := rfl
    have h3' : (utf8 " --").length = 3 := rfl
    rw [List.length_append, List.length_append]
    omega
  have hstarts : Bytes.startsWith "-- " (utf8 "-- " ++ name ++ utf8 " --") = true := by
    rw [List.append_assoc]
    exact List.isPrefixOf_iff_prefix.mpr (List.prefix_append _ _)
  have hends : Bytes.endsWith " --" (utf8 "-- " ++ name ++ utf8 " --") = true :=
    List.isSuffixOf_iff_suffix.mpr (List.suffix_append _ _)
  have hmiddle : ((utf8 "-- " ++ name ++ utf8 " --").drop 3).take (name.length + 6 - 6) = name := by
    rw [Nat.add_sub_cancel, List.append_assoc]
    show (name ++ utf8 " --").take name.length = name
    exact List.take_left
  rw [markerName?.eq_def]
  simp only [hlast, beq_self_eq_true, if_true, hline, hlength, hstarts, hends, hmiddle, h.trimmed]
  rw [if_pos (by simp), if_neg (by simpa using h.ne_nil)]

/-! ## Reading back -/

/-- An archive as a text: the comment, and then each member as its marker line and its content. -/
def text (a : Archive) : Bytes :=
  a.comment ++ a.members.flatMap fun m => markerLine m.name ++ m.data

/-- An archive whose text says where each member starts and ends. -/
structure IsReadable (a : Archive) : Prop where
  comment : IsBlock a.comment
  names : ∀ m ∈ a.members, IsMarked m.name
  contents : ∀ m ∈ a.members, IsBlock m.data

instance (a : Archive) : Decidable (IsReadable a) :=
  decidable_of_iff
    (IsBlock a.comment ∧ (∀ m ∈ a.members, IsMarked m.name) ∧ ∀ m ∈ a.members, IsBlock m.data)
    ⟨fun ⟨hcomment, hnames, hcontents⟩ => ⟨hcomment, hnames, hcontents⟩,
      fun h => ⟨h.comment, h.names, h.contents⟩⟩

/-- Lines that start no member belong to the text before the next one. -/
theorem sections_append (h : ∀ line ∈ ls, markerName? line = none) :
    sections (ls ++ rest) = (ls.flatten ++ (sections rest).1, (sections rest).2) := by
  induction ls with
  | nil => rfl
  | cons line ls ih =>
    rw [List.cons_append, sections, h line List.mem_cons_self,
      ih fun l hl => h l (List.mem_cons_of_mem _ hl), List.flatten_cons, List.append_assoc]

theorem sections_block (h : IsBlock s) (t : Bytes) :
    sections (lines (s ++ t)) = (s ++ (sections (lines t)).1, (sections (lines t)).2) := by
  rw [lines_append h.ends, sections_append h.plain, flatten_lines]

/-- The members come back from their marker lines and contents, with no text before the first. -/
theorem sections_members {ms : List ArchiveMember} (hnames : ∀ m ∈ ms, IsMarked m.name)
    (hcontents : ∀ m ∈ ms, IsBlock m.data) :
    sections (lines (ms.flatMap fun m => markerLine m.name ++ m.data)) = ([], ms) := by
  induction ms with
  | nil => rfl
  | cons m ms ih =>
    have hname := hnames m List.mem_cons_self
    have hcontent := hcontents m List.mem_cons_self
    have hrest := ih (fun x hx => hnames x (List.mem_cons_of_mem _ hx)) fun x hx =>
      hcontents x (List.mem_cons_of_mem _ hx)
    rw [List.flatMap_cons, List.append_assoc, lines_append (endsLine_markerLine m.name),
      lines_markerLine hname, List.singleton_append, sections, markerName?_markerLine hname,
      sections_block hcontent, hrest]
    simp only [List.append_nil, withNewline_of_endsLine hcontent.ends]

/-- An archive is read as it was written. -/
theorem parse_text {a : Archive} (h : IsReadable a) : parse (text a) = a := by
  rw [parse, text, sections_block h.comment, sections_members h.names h.contents]
  simp only [List.append_nil, withNewline_of_endsLine h.comment.ends]

end Golden.Archive
