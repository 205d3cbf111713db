import Golden.Proofs.Console.Coloring

/-!
# Placeholders

A placeholder goes from a `<` to the next `>`. Wherever brackets are nested, left open or closed twice,
there is one way to divide a text into plain parts and placeholders such that no placeholder could have
started earlier (`Division.exists_leftmost`, `Division.Leftmost.unique`), and `highlight` paints the
placeholders of that division and copies the rest (`Division.Leftmost.highlight_text`).

`highlight` goes over the text byte by byte. The loop of `Highlighter.round` jumps over a placeholder
once it has found where it ends; it comes to its end with the same text, after one round for every
plain byte and one for every placeholder (`Highlighter.Ends.of_leftmost`).
-/

namespace Golden

/-! ## Where a placeholder starts -/

/-- At this position of the text stands a `<`, and a `>` somewhere behind it. -/
def OpensAt (text : Bytes) (i : Nat) : Prop :=
  text[i]? = some ('<' : UInt8) ∧ ('>' : UInt8) ∈ text.drop (i + 1)

instance (text : Bytes) (i : Nat) : Decidable (OpensAt text i) := inferInstanceAs (Decidable (_ ∧ _))

theorem opensAt_zero {b : UInt8} {s : Bytes} :
    OpensAt (b :: s) 0 ↔ b = '<' ∧ ('>' : UInt8) ∈ s := by
  simp [OpensAt]

theorem opensAt_succ {b : UInt8} {s : Bytes} {i : Nat} : OpensAt (b :: s) (i + 1) ↔ OpensAt s i := by
  simp [OpensAt]

/-- No placeholder starts before the rest of the text. -/
def Unopened (before rest : Bytes) : Prop := ∀ i < before.length, ¬OpensAt (before ++ rest) i

instance (before rest : Bytes) : Decidable (Unopened before rest) :=
  inferInstanceAs (Decidable (∀ i < _, _))

namespace Unopened

variable {before rest : Bytes}

theorem nil (rest : Bytes) : Unopened [] rest := fun _ hi => absurd hi (Nat.not_lt_zero _)

/-- No placeholder starts in the text as a whole. -/
theorem whole_iff {text : Bytes} : Unopened text [] ↔ ∀ i, ¬OpensAt text i := by
  rw [Unopened, List.append_nil]
  refine ⟨fun h i hopens => h i ?_ hopens, fun h i _ => h i⟩
  exact (List.getElem?_eq_some_iff.mp hopens.1).1

theorem cons_iff {b : UInt8} :
    Unopened (b :: before) rest
      ↔ ¬(b = '<' ∧ ('>' : UInt8) ∈ before ++ rest) ∧ Unopened before rest := by
  constructor
  · intro h
    refine ⟨fun hopens => h 0 (Nat.succ_pos _) (opensAt_zero.mpr hopens), fun i hi hopens => ?_⟩
    exact h (i + 1) (Nat.succ_lt_succ hi) (opensAt_succ.mpr hopens)
  · rintro ⟨hfirst, hlater⟩ i hi hopens
    cases i with
    | zero => exact hfirst (opensAt_zero.mp hopens)
    | succ i => exact hlater i (Nat.lt_of_succ_lt_succ hi) (opensAt_succ.mp hopens)

/-- Where a `>` is still to come, every `<` starts a placeholder. -/
theorem open_not_mem (h : Unopened before rest) (hrest : ('>' : UInt8) ∈ rest) :
    ('<' : UInt8) ∉ before := by
  induction before with
  | nil => exact List.not_mem_nil
  | cons b before ih =>
    obtain ⟨hfirst, hlater⟩ := cons_iff.mp h
    rw [List.mem_cons, not_or]
    exact ⟨fun hb => hfirst ⟨hb.symm, List.mem_append_right before hrest⟩, ih hlater⟩

end Unopened

/-! ## The first occurrence of a byte -/

/-- A text is split in one way only at the first occurrence of a byte. -/
theorem split_at_first {sep : UInt8} {s s' t t' : Bytes} (hs : sep ∉ s) (hs' : sep ∉ s')
    (h : s ++ sep :: t = s' ++ sep :: t') : s = s' ∧ t = t' := by
  have hcut := congrArg (Bytes.cut sep) h
  rw [Bytes.cut_append_cons hs, Bytes.cut_append_cons hs'] at hcut
  exact ⟨(Prod.mk.inj hcut).1, Option.some.inj (Prod.mk.inj hcut).2⟩

theorem idxOf?_append_cons {x : UInt8} {s : Bytes} (hs : x ∉ s) (t : Bytes) :
    (s ++ x :: t).idxOf? x = some s.length := by
  induction s with
  | nil => simp [List.idxOf?_cons]
  | cons b s ih =>
    rw [List.mem_cons, not_or] at hs
    have hb : ¬(b == x) = true := fun h => hs.1 (beq_iff_eq.mp h).symm
    rw [List.cons_append, List.idxOf?_cons, if_neg hb, ih hs.2]
    rfl

/-! ## Dividing a text -/

/-- A placeholder by what stands between its brackets. -/
@[ext] structure Placeholder where
  name : Bytes
  /-- It ends at the first `>`. -/
  endsFirst : ('>' : UInt8) ∉ name

namespace Placeholder

variable (p : Placeholder)

/-- The placeholder with its brackets. -/
def text : Bytes := '<' :: (p.name ++ [('>' : UInt8)])

/-- The placeholder in green. -/
def painted : Bytes := inkOff ++ Ink.green.on ++ p.text ++ inkOff

theorem text_append (t : Bytes) :
    p.text ++ t = ('<' : UInt8) :: (p.name ++ ('>' : UInt8) :: t) := by
  simp [text]

/-- Where a placeholder stands, one could start. -/
theorem not_unopened (before t : Bytes) : ¬Unopened (before ++ (p.text ++ t)) [] := by
  induction before with
  | nil =>
    rw [List.nil_append, p.text_append]
    exact fun h => (Unopened.cons_iff.mp h).1 ⟨rfl, by simp⟩
  | cons b before ih => exact fun h => ih (Unopened.cons_iff.mp h).2

end Placeholder

/-- A text divided into plain parts and placeholders. -/
inductive Division where
  | plain (s : Bytes)
  | placeholder (before : Bytes) (p : Placeholder) (rest : Division)

namespace Division

/-- The text that is divided. -/
def text : Division → Bytes
  | plain s => s
  | placeholder before p rest => before ++ (p.text ++ rest.text)

/-- The text with its placeholders painted. -/
def painted : Division → Bytes
  | plain s => s
  | placeholder before p rest => before ++ (p.painted ++ rest.painted)

/-- The number of plain bytes and of placeholders. -/
def size : Division → Nat
  | plain s => s.length
  | placeholder before _ rest => before.length + (rest.size + 1)

/-- Every placeholder starts as early as one can behind the one before it, and behind the last none can. -/
def Leftmost : Division → Prop
  | plain s => Unopened s []
  | placeholder before p rest => Unopened before (p.text ++ rest.text) ∧ rest.Leftmost

instance decidableLeftmost : (d : Division) → Decidable d.Leftmost
  | plain s => inferInstanceAs (Decidable (Unopened s []))
  | placeholder before p rest =>
    have := decidableLeftmost rest
    inferInstanceAs (Decidable (Unopened before (p.text ++ rest.text) ∧ rest.Leftmost))

/-- No placeholder starts in a text, or there is a first one. -/
theorem first_placeholder (text : Bytes) :
    Unopened text [] ∨ ∃ (before : Bytes) (p : Placeholder) (rest : Bytes),
      text = before ++ (p.text ++ rest) ∧ Unopened before (p.text ++ rest) := by
  induction text with
  | nil => exact .inl (.nil [])
  | cons b s ih =>
    by_cases hopens : b = '<' ∧ ('>' : UInt8) ∈ s
    · obtain ⟨hb, hs⟩ := hopens
      obtain ⟨name, rest, hsplit, hname⟩ := List.eq_append_cons_of_mem hs
      refine .inr ⟨[], ⟨name, hname⟩, rest, ?_, .nil _⟩
      rw [List.nil_append, Placeholder.text_append, hb, hsplit]
    · rcases ih with hplain | ⟨before, p, rest, hsplit, hbefore⟩
      · exact .inl (Unopened.cons_iff.mpr ⟨by rwa [List.append_nil], hplain⟩)
      · refine .inr ⟨b :: before, p, rest, by rw [hsplit, List.cons_append], ?_⟩
        exact Unopened.cons_iff.mpr ⟨by rwa [← hsplit], hbefore⟩

/-- Every text can be divided so. -/
theorem exists_leftmost (text : Bytes) : ∃ d : Division, d.text = text ∧ d.Leftmost := by
  rcases first_placeholder text with hplain | ⟨before, p, rest, hsplit, hbefore⟩
  · exact ⟨plain text, rfl, hplain⟩
  · have hshorter : rest.length < text.length := by
      rw [hsplit]
      simp only [Placeholder.text, List.length_append, List.length_cons]
      omega
    obtain ⟨d, hd, hleftmost⟩ := exists_leftmost rest
    subst hd
    exact ⟨placeholder before p d, hsplit.symm, hbefore, hleftmost⟩
termination_by text.length

/-- There is only one division of a text in which no placeholder could have started earlier. -/
theorem Leftmost.unique {d d' : Division} (hd : d.Leftmost) (hd' : d'.Leftmost)
    (h : d.text = d'.text) : d = d' := by
  induction d generalizing d' with
  | plain s =>
    cases d' with
    | plain s' => exact congrArg plain h
    | placeholder before' p' rest' =>
      obtain rfl : s = before' ++ (p'.text ++ rest'.text) := h
      exact absurd hd (p'.not_unopened before' rest'.text)
  | placeholder before p rest ih =>
    cases d' with
    | plain s' =>
      obtain rfl : s' = before ++ (p.text ++ rest.text) := h.symm
      exact absurd hd' (p.not_unopened before rest.text)
    | placeholder before' p' rest' =>
      obtain ⟨hbefore, hrest⟩ := hd
      obtain ⟨hbefore', hrest'⟩ := hd'
      simp only [text, Placeholder.text_append] at h hbefore hbefore'
      -- no `<` stands before the first placeholder, so both divisions have the same first one
      obtain ⟨rfl, htail⟩ := split_at_first (hbefore.open_not_mem (by simp))
        (hbefore'.open_not_mem (by simp)) h
      obtain ⟨hname, htext⟩ := split_at_first p.endsFirst p'.endsFirst htail
      rw [ih hrest hrest' htext, Placeholder.ext hname]

end Division

/-! ## Painting -/

theorem highlight_cons_plain {b : UInt8} {s : Bytes} (h : ¬(b = '<' ∧ ('>' : UInt8) ∈ s)) :
    highlight (b :: s) = b :: highlight s := by
  have hclosed : ¬(b = '<' && s.contains 0x3e) = true := by
    rwa [Bool.and_eq_true, decide_eq_true_eq, List.contains_iff_mem]
  rw [highlight, highlightFrom, if_neg Bool.false_ne_true, if_neg hclosed]
  rfl

theorem highlight_cons_open {s : Bytes} (h : ('>' : UInt8) ∈ s) :
    highlight (('<' : UInt8) :: s)
      = inkOff ++ Ink.green.on ++ ('<' : UInt8) :: highlightFrom true s := by
  have hopen : ((('<' : UInt8) = '<') && s.contains 0x3e) = true := by
    rw [Bool.and_eq_true, decide_eq_true_eq, List.contains_iff_mem]
    exact ⟨rfl, h⟩
  rw [highlight, highlightFrom, if_neg Bool.false_ne_true, if_pos hopen]

theorem highlightFrom_inside {name : Bytes} (hname : ('>' : UInt8) ∉ name) (rest : Bytes) :
    highlightFrom true (name ++ ('>' : UInt8) :: rest)
      = name ++ ('>' : UInt8) :: (inkOff ++ highlight rest) := by
  induction name with
  | nil => rfl
  | cons b name ih =>
    rw [List.mem_cons, not_or] at hname
    rw [List.cons_append, highlightFrom, if_pos rfl, if_neg (Ne.symm hname.1), ih hname.2,
      List.cons_append]

theorem highlight_unopened {before rest : Bytes} (h : Unopened before rest) :
    highlight (before ++ rest) = before ++ highlight rest := by
  induction before with
  | nil => rfl
  | cons b before ih =>
    obtain ⟨hfirst, hlater⟩ := Unopened.cons_iff.mp h
    rw [List.cons_append, highlight_cons_plain hfirst, ih hlater, List.cons_append]

theorem highlight_placeholder (p : Placeholder) (rest : Bytes) :
    highlight (p.text ++ rest) = p.painted ++ highlight rest := by
  rw [p.text_append, highlight_cons_open (by simp), highlightFrom_inside p.endsFirst]
  simp [Placeholder.painted, Placeholder.text]

/-- The placeholders of the leftmost division are painted, and the rest is copied. -/
theorem Division.Leftmost.highlight_text {d : Division} (hd : d.Leftmost) :
    highlight d.text = d.painted := by
  induction d with
  | plain s =>
    have h := highlight_unopened hd
    rwa [List.append_nil, show highlight [] = [] from rfl, List.append_nil] at h
  | placeholder before p rest ih =>
    obtain ⟨hbefore, hrest⟩ := hd
    rw [text, highlight_unopened hbefore, highlight_placeholder, ih hrest, painted]

/-! ## The loop -/

/-- How far the loop has come in the text and what it has written. -/
structure Highlighter where
  position : Nat := 0
  written : Bytes := []

namespace Highlighter

/-- A round of the loop: it goes on by a placeholder or by a byte. At the end of the text there is none. -/
def round (text : Bytes) (h : Highlighter) : Option Highlighter :=
  match text.drop h.position with
  | [] => none
  | b :: ahead =>
    match if b = '<' then (b :: ahead).idxOf? ('>' : UInt8) else none with
    | some stop =>
      some {
        position := h.position + stop + 1
        written := h.written ++ inkOff ++ Ink.green.on ++ (b :: ahead).take (stop + 1) ++ inkOff }
    | none => some { position := h.position + 1, written := h.written ++ [b] }

/-- From one state on the loop ends in another after so many rounds. -/
inductive Ends (text : Bytes) : Nat → Highlighter → Highlighter → Prop
  | now {h : Highlighter} (last : h.round text = none) : Ends text 0 h h
  | later {n : Nat} {h next last : Highlighter} (first : h.round text = some next)
      (others : Ends text n next last) : Ends text (n + 1) h last

variable {text : Bytes} {i : Nat} {w : Bytes}

theorem drop_of_append {s t : Bytes} (h : text.drop i = s ++ t) : text.drop (i + s.length) = t := by
  rw [← List.drop_drop, h, List.drop_left]

theorem round_end (h : text.drop i = []) : round text ⟨i, w⟩ = none := by
  simp only [round, h]

theorem round_plain {b : UInt8} {ahead : Bytes} (h : text.drop i = b :: ahead)
    (hplain : ¬(b = '<' ∧ ('>' : UInt8) ∈ ahead)) :
    round text ⟨i, w⟩ = some ⟨i + 1, w ++ [b]⟩ := by
  have hsearch : (if b = '<' then (b :: ahead).idxOf? ('>' : UInt8) else none) = none := by
    split
    next hb =>
      have hbyte : ('>' : UInt8) ≠ '<' := by decide
      rw [List.idxOf?_eq_none_iff, List.mem_cons, not_or, hb]
      exact ⟨hbyte, fun hmem => hplain ⟨hb, hmem⟩⟩
    next => rfl
  simp only [round, h, hsearch]

theorem round_placeholder {p : Placeholder} {t : Bytes} (h : text.drop i = p.text ++ t) :
    round text ⟨i, w⟩ = some ⟨i + p.text.length, w ++ p.painted⟩ := by
  have hopen : ('>' : UInt8) ∉ ('<' : UInt8) :: p.name := by
    rw [List.mem_cons, not_or]
    exact ⟨by decide, p.endsFirst⟩
  have hsearch := idxOf?_append_cons hopen t
  have hlength : p.text.length = p.name.length + 1 + 1 := by simp [Placeholder.text]
  have htake : (p.text ++ t).take (p.name.length + 1 + 1) = p.text := by
    rw [← hlength, List.take_left]
  rw [List.cons_append, List.length_cons] at hsearch
  rw [p.text_append] at h htake
  simp only [round, h, if_true, hsearch, htake, hlength, Placeholder.painted, List.append_assoc,
    Nat.add_assoc]

namespace Ends

variable {n : Nat} {last : Highlighter}

/-- The loop copies what stands before a placeholder byte by byte. -/
theorem unopened {before rest : Bytes} (hbefore : Unopened before rest)
    (h : text.drop i = before ++ rest)
    (others : Ends text n ⟨i + before.length, w ++ before⟩ last) :
    Ends text (before.length + n) ⟨i, w⟩ last := by
  induction before generalizing i w with
  | nil => simpa using others
  | cons b before ih =>
    obtain ⟨hfirst, hlater⟩ := Unopened.cons_iff.mp hbefore
    have hnext : text.drop (i + 1) = before ++ rest := drop_of_append (s := [b]) h
    rw [List.length_cons, Nat.add_right_comm]
    refine .later (round_plain h hfirst) (ih hlater hnext ?_)
    simpa [Nat.add_assoc, Nat.add_comm 1] using others

/-- The loop ends behind the text that is left, and has written it as the leftmost division is painted. -/
theorem of_leftmost {d : Division} (hd : d.Leftmost) (h : text.drop i = d.text) :
    Ends text d.size ⟨i, w⟩ ⟨i + d.text.length, w ++ d.painted⟩ := by
  induction d generalizing i w with
  | plain s =>
    have hs : text.drop i = s ++ [] := by rw [h, List.append_nil, Division.text]
    exact unopened hd hs (.now (round_end (drop_of_append hs)))
  | placeholder before p rest ih =>
    obtain ⟨hbefore, hrest⟩ := hd
    have hplaceholder : text.drop (i + before.length) = p.text ++ rest.text := drop_of_append h
    have hbehind := ih (w := w ++ before ++ p.painted) hrest (drop_of_append hplaceholder)
    have hlength : i + (Division.placeholder before p rest).text.length
        = i + before.length + p.text.length + rest.text.length := by
      simp only [Division.text, List.length_append]
      omega
    have hwritten : w ++ (Division.placeholder before p rest).painted
        = w ++ before ++ p.painted ++ rest.painted := by
      simp only [Division.painted, List.append_assoc]
    rw [hlength, hwritten]
    exact unopened hbefore h (.later (round_placeholder hplaceholder) hbehind)

end Ends

end Highlighter

/-! ## Every text -/

namespace Division

theorem length_text_le_painted (d : Division) : d.text.length ≤ d.painted.length := by
  induction d with
  | plain s => exact Nat.le_refl _
  | placeholder before p rest ih =>
    simp only [text, painted, Placeholder.painted, List.length_append]
    omega

/-- Only without a placeholder does painting leave the text as it is. -/
theorem Leftmost.painted_eq_text_iff {d : Division} (hd : d.Leftmost) :
    d.painted = d.text ↔ ∀ i, ¬OpensAt d.text i := by
  rw [← Unopened.whole_iff]
  cases d with
  | plain s => exact iff_of_true rfl hd
  | placeholder before p rest =>
    refine iff_of_false (fun h => ?_) (p.not_unopened before rest.text)
    have hlength := congrArg List.length h
    have hrest := rest.length_text_le_painted
    have hoff : inkOff.length = 4 := rfl
    simp only [text, painted, Placeholder.painted, List.length_append, hoff] at hlength
    omega

end Division

/-- Every text is divided in one way into plain parts and placeholders that start as early as they can and
end as early as they can. The placeholders are painted and the rest is copied, the loop ends with that
text, without its colours it is the text it was if that had no escape byte, and it is unchanged if and
only if no placeholder could start anywhere. -/
theorem highlight_placeholders (text : Bytes) :
    ∃ d : Division,
      (d.text = text ∧ d.Leftmost ∧ ∀ d' : Division, d'.text = text → d'.Leftmost → d' = d)
      ∧ highlight text = d.painted
      ∧ Highlighter.Ends text d.size {} ⟨text.length, highlight text⟩
      ∧ (escByte ∉ text → stripColors (highlight text) = text)
      ∧ (highlight text = text ↔ ∀ i, ¬OpensAt text i) := by
  obtain ⟨d, rfl, hd⟩ := Division.exists_leftmost text
  have hpainted : highlight d.text = d.painted := hd.highlight_text
  refine ⟨d, ⟨rfl, hd, fun d' hsame hd' => hd'.unique hd hsame⟩, hpainted, ?_, ?_, ?_⟩
  · have hends := Highlighter.Ends.of_leftmost (i := 0) (w := []) hd rfl
    rwa [Nat.zero_add, List.nil_append, ← hpainted] at hends
  · exact (Coloring.highlight d.text).strip
  · rw [hpainted]
    exact hd.painted_eq_text_iff

/-- A text with brackets that close nothing, stand inside a placeholder and are left open. -/
def crookedBrackets : Division := .placeholder "a > " ⟨"b <c", by decide⟩ (.plain "> <d")

theorem highlight_placeholders_crooked :
    crookedBrackets.text = utf8 "a > <b <c>> <d"
      ∧ crookedBrackets.Leftmost
      ∧ escByte ∉ crookedBrackets.text
      ∧ highlight crookedBrackets.text = crookedBrackets.painted
      ∧ Highlighter.Ends crookedBrackets.text 9 {} ⟨14, highlight crookedBrackets.text⟩
      ∧ stripColors (highlight crookedBrackets.text) = crookedBrackets.text := by
  have hleftmost : crookedBrackets.Leftmost := by decide
  have hescape : escByte ∉ crookedBrackets.text := by decide
  obtain ⟨d, ⟨-, -, hunique⟩, hpainted, hends, hstrip, -⟩ :=
    highlight_placeholders crookedBrackets.text
  obtain rfl := hunique crookedBrackets rfl hleftmost
  exact ⟨by decide, hleftmost, hescape, hpainted, hends, hstrip hescape⟩

end Golden
