import Golden.Console.Basic

/-!
# Coloured texts

A coloured text is a plain one with escape sequences put in (`Coloring`). Whatever the console writes is
related to what it writes without colours in this way, operation by operation. Taking the colours out
again gives the plain text back, as long as that has no escape byte of its own (`Coloring.strip`).
-/

namespace Golden

/-- The second text is the first one with escape sequences put in. -/
inductive Coloring : Bytes → Bytes → Prop
  | nil : Coloring [] []
  | byte (b : UInt8) {plain colored : Bytes} (tail : Coloring plain colored) :
      Coloring (b :: plain) (b :: colored)
  | sequence {number : Bytes} (digits : ∀ d ∈ number, isDigit d = true) {plain colored : Bytes}
      (tail : Coloring plain colored) : Coloring plain (escapeSequence number ++ colored)

namespace Coloring

variable {s t a b : Bytes}

theorem refl (s : Bytes) : Coloring s s := by
  induction s with
  | nil => exact .nil
  | cons b s ih => exact .byte b ih

theorem append (h : Coloring s a) (h' : Coloring t b) : Coloring (s ++ t) (a ++ b) := by
  induction h with
  | nil => exact h'
  | byte x _ ih => exact .byte x ih
  | sequence digits _ ih =>
    rw [List.append_assoc]
    exact .sequence digits ih

theorem inkOn (i : Ink) : Coloring [] i.on := by
  have hdigits : ∀ d ∈ i.number, isDigit d = true := List.all_eq_true.mp (by cases i <;> rfl)
  have h := sequence hdigits .nil
  rwa [List.append_nil] at h

theorem inkOff : Coloring [] Golden.inkOff := by
  have hdigits : ∀ d ∈ utf8 "0", isDigit d = true := List.all_eq_true.mp rfl
  have h := sequence hdigits .nil
  rwa [List.append_nil] at h

theorem inksOn (inks : List Ink) : Coloring [] (inks.flatMap Ink.on) := by
  induction inks with
  | nil => exact .nil
  | cons i inks ih => exact (inkOn i).append ih

theorem paint (h : Coloring s a) (color : Bool) (inks : List Ink) :
    Coloring s (Golden.paint color inks a) := by
  unfold Golden.paint
  split
  · have hpainted := ((inksOn inks).append h).append inkOff
    rwa [List.nil_append, List.append_nil] at hpainted
  · exact h

/-- Painting the placeholders loses and moves no byte. -/
theorem highlightFrom (inside : Bool) (s : Bytes) : Coloring s (Golden.highlightFrom inside s) := by
  induction s generalizing inside with
  | nil => exact .nil
  | cons b s ih =>
    rw [Golden.highlightFrom]
    split
    · split
      · exact .byte b (inkOff.append (ih false))
      · exact .byte b (ih true)
    · split
      · have hopened := (inkOff.append (inkOn .green)).append (.byte b (ih true))
        rwa [List.append_assoc] at hopened
      · exact .byte b (ih false)

theorem highlight (s : Bytes) : Coloring s (Golden.highlight s) := highlightFrom false s

end Coloring

/-! ## Taking the colours out -/

theorem stripFrom_append (s a : Bytes) : stripFrom s.length (s ++ a) = stripFrom 0 a := by
  induction s with
  | nil => rfl
  | cons b s ih => exact ih

theorem afterEscape?_sequence {number : Bytes} (hdigits : ∀ d ∈ number, isDigit d = true)
    (a : Bytes) : afterEscape? (escapeSequence number ++ a) = some a := by
  have hend : (number ++ 0x6d :: a).dropWhile isDigit = 0x6d :: a := by
    rw [List.dropWhile_append_of_pos hdigits]
    rfl
  have hsequence : escapeSequence number ++ a = escByte :: 0x5b :: (number ++ 0x6d :: a) := by
    simp [escapeSequence]
  rw [hsequence, afterEscape?, hend]
  rfl

theorem stripColors_sequence {number : Bytes} (hdigits : ∀ d ∈ number, isDigit d = true)
    (a : Bytes) : stripColors (escapeSequence number ++ a) = stripColors a := by
  have hlength : (0x5b :: (number ++ [0x6d]) ++ a).length - a.length
      = (0x5b :: (number ++ [0x6d])).length := by
    rw [List.length_append, Nat.add_sub_cancel]
  show stripFrom 0 (escByte :: (0x5b :: (number ++ [0x6d]) ++ a)) = stripFrom 0 a
  have hafter : afterEscape? (escByte :: (0x5b :: (number ++ [0x6d]) ++ a)) = some a :=
    afterEscape?_sequence hdigits a
  simp only [stripFrom, hafter]
  rw [hlength, stripFrom_append]

theorem stripColors_cons {b : UInt8} (hb : b ≠ escByte) (s : Bytes) :
    stripColors (b :: s) = b :: stripColors s := by
  have hnone : afterEscape? (b :: s) = none := by
    cases s with
    | nil => rfl
    | cons x s => simp [afterEscape?, hb]
  simp only [stripColors, stripFrom, hnone]

/-- Without its colours a coloured text is the plain one. -/
theorem Coloring.strip {s a : Bytes} (h : Coloring s a) (hs : escByte ∉ s) : stripColors a = s := by
  induction h with
  | nil => rfl
  | byte b _ ih =>
    rw [List.mem_cons, not_or] at hs
    rw [stripColors_cons (Ne.symm hs.1), ih hs.2]
  | sequence digits _ ih => rw [stripColors_sequence digits, ih hs]

/-! ## Outputs -/

/-- The second output is the first one with escape sequences put in. -/
structure Output.Coloring (plain colored : Output) : Prop where
  out : Golden.Coloring plain.out colored.out
  err : Golden.Coloring plain.err colored.err

namespace Output.Coloring

variable {o p a b : Output} {s t : Bytes}

theorem refl (o : Output) : Coloring o o := ⟨.refl _, .refl _⟩

theorem append (h : Coloring o a) (h' : Coloring p b) : Coloring (o ++ p) (a ++ b) :=
  ⟨h.out.append h'.out, h.err.append h'.err⟩

theorem line (h : Golden.Coloring s t) : Coloring (.line s) (.line t) :=
  ⟨h.append (.refl _), .nil⟩

theorem errorLine (h : Golden.Coloring s t) : Coloring (.errorLine s) (.errorLine t) :=
  ⟨.nil, h.append (.refl _)⟩

theorem concat_map {α : Type} {f g : α → Output} {xs : List α} (h : ∀ x ∈ xs, Coloring (f x) (g x)) :
    Coloring (.concat (xs.map f)) (.concat (xs.map g)) := by
  induction xs with
  | nil => exact refl _
  | cons x xs ih =>
    rw [List.forall_mem_cons] at h
    exact h.1.append (ih h.2)

end Output.Coloring

/-! ## The console -/

namespace Console

/-- The console without colours. -/
def uncolored (c : Console) : Console := { c with color := false }

variable (c : Console)

theorem coloring_paint (inks : List Ink) (s : Bytes) : Coloring s (c.paint inks s) :=
  (Coloring.refl s).paint c.color inks

theorem coloring_error (message : Bytes) :
    Output.Coloring (c.uncolored.error message) (c.error message) :=
  .errorLine (((c.coloring_paint _ _).append (.refl _)).append (.refl _))

theorem coloring_warning (message : Bytes) :
    Output.Coloring (c.uncolored.warning message) (c.warning message) :=
  .errorLine (((c.coloring_paint _ _).append (.refl _)).append (.refl _))

theorem coloring_case (r : CaseReport) : Output.Coloring (c.uncolored.case r) (c.case r) := by
  have hhead : Coloring (r.headLine false) (r.headLine c.color) :=
    ((Coloring.refl _).append (c.coloring_paint _ _)).append (.refl _)
  unfold case
  show Output.Coloring (if r.status = CaseReport.passed && c.quiet then _ else _) _
  split
  · exact .refl _
  · exact ⟨hhead.append (.refl _), .nil⟩

/-! ### Help -/

theorem coloring_helpTitle (title : Bytes) :
    Output.Coloring (c.uncolored.helpTitle title) (c.helpTitle title) :=
  .line (c.coloring_paint _ _)

theorem coloring_helpSection (title : Bytes) :
    Output.Coloring (c.uncolored.helpSection title) (c.helpSection title) :=
  (Output.Coloring.refl _).append (.line (c.coloring_paint _ _))

/-- The two columns are the same where the name is filled up by as many blanks as its bytes leave. -/
theorem coloring_helpFlag {name : Bytes} {width : Int}
    (hname : leftAligned width name = name ++ List.replicate (width - name.length).toNat 0x20)
    (description : Bytes) :
    Output.Coloring (c.uncolored.helpFlag name description width) (c.helpFlag name description width) := by
  have hplain : c.uncolored.helpFlag name description width
      = .line (utf8 "  " ++ name ++ List.replicate (width - name.length).toNat 0x20 ++ utf8 "  "
        ++ description) := by
    show Output.line (utf8 "  " ++ leftAligned width name ++ utf8 "  " ++ description) = _
    rw [hname, ← List.append_assoc]
  cases hcolor : c.color with
  | false =>
    have hsame : c.uncolored = c := by rw [uncolored, ← hcolor]
    rw [hsame]
    exact .refl _
  | true =>
    rw [hplain, helpFlag, if_pos hcolor]
    exact .line (((((Coloring.refl _).append ((Coloring.highlight name).paint true _)).append
      (.refl _)).append (.refl _)).append ((Coloring.refl _).paint true _))

theorem coloring_helpExample (command description : Bytes) :
    Output.Coloring (c.uncolored.helpExample command description)
      (c.helpExample command description) := by
  refine (Output.Coloring.line ((Coloring.refl _).append (c.coloring_paint _ _))).append ?_
  split
  · exact .refl _
  · exact .line ((Coloring.refl _).append (c.coloring_paint _ _))

theorem coloring_helpUsage (usage : Bytes) :
    Output.Coloring (c.uncolored.helpUsage usage) (c.helpUsage usage) := by
  refine .line ((Coloring.refl _).append ?_)
  show Coloring usage (if c.color then highlight usage else usage)
  split
  · exact .highlight usage
  · exact .refl usage

/-! ### Summaries -/

theorem coloring_summaryHeader (title : Bytes) :
    Output.Coloring (c.uncolored.summaryHeader title) (c.summaryHeader title) :=
  ((Output.Coloring.refl _).append (.line (c.coloring_paint _ _))).append (.refl _)

theorem coloring_summaryValue (inks : List Ink) (label value : Bytes) :
    Output.Coloring (c.uncolored.summaryValue inks label value) (c.summaryValue inks label value) := by
  refine .line ((((Coloring.refl _).append (c.coloring_paint _ _)).append (.refl _)).append ?_)
  split
  · exact .refl _
  · exact c.coloring_paint _ _

theorem coloring_summaryLabel (label : Bytes) :
    Output.Coloring (c.uncolored.summaryLabel label) (c.summaryLabel label) :=
  .line ((Coloring.refl _).append (c.coloring_paint _ _))

theorem coloring_finalSuccess (message : Bytes) :
    Output.Coloring (c.uncolored.finalSuccess message) (c.finalSuccess message) :=
  (Output.Coloring.refl _).append (.line (c.coloring_paint _ _))

theorem coloring_finalFailure (message : Bytes) :
    Output.Coloring (c.uncolored.finalFailure message) (c.finalFailure message) :=
  (Output.Coloring.refl _).append (.line (c.coloring_paint _ _))

end Console

end Golden
