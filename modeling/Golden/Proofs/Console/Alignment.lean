import Golden.Proofs.Console.Coloring

/-!
# The columns of the help text

The description of a flag stands in a column of its own: the name in front of it is filled up with blanks.
Without colours the name is filled up by a format, which counts characters (`leftAligned_eq`); with
colours the blanks are counted by bytes (`stripColors_helpFlag`). So the two columns are the same where the
name has as many characters as bytes, and where it is too long to be filled up at all
(`helpFlag_aligned_iff`). A name beyond ASCII that is short enough moves its description to the left as
soon as colours are on (`helpFlag_not_aligned`).
-/

namespace Golden

/-! ## Filling up by a format -/

namespace Format

variable {args : List FormatArg}

theorem evaluate_of_rest_nil {s : Scan} (hs : s.rest = []) (n : Nat) :
    evaluate args n s = ([], s) := by
  cases n with
  | zero => rfl
  | succ n => rw [evaluate, hs]

theorem evaluate_directive (s : Scan) {s' : Scan} {rest shown : Bytes} (hs : s.rest = 0x25 :: rest)
    (h : directive args { s with rest } = (shown, s')) (n : Nat) :
    evaluate args (n + 1) s = (shown ++ (evaluate args n s').1, (evaluate args n s').2) := by
  have hpercent : (0x25 : UInt8) = '%' := rfl
  rw [evaluate, hs]
  simp only [if_pos hpercent, h]

/-- The directive that fills up a text on the right to a width that an argument gives. -/
theorem directive_leftAligned {width : Nat} (hwidth : width ≤ maxStar) (s : Bytes) :
    directive [.int width, .text s] { rest := [0x2d, 0x2a, 0x73] }
      = (Style.pad { minus := true, width := some width } s, { rest := [], next := 2 }) := by
  have hflags : flags {} [0x2d, 0x2a, 0x73] = ({ minus := true }, [0x2a, 0x73]) := rfl
  have hindex : Scan.index 2 { rest := [0x2a, 0x73] } = { rest := [0x2a, 0x73] } := rfl
  have hstar : Scan.star [.int width, .text s] { rest := [0x2a, 0x73] }
      = (some (width : Int), { rest := [0x73], next := 1 }) := by
    simp [Scan.star, hwidth]
  have hstyle : Scan.width [.int width, .text s] { minus := true } { rest := [0x2a, 0x73] }
      = ([], { minus := true, width := some width }, { rest := [0x73], next := 1 }) := by
    simp [Scan.width, hstar]
  simp only [directive, hflags, List.length_cons, List.length_nil, Nat.zero_add, Nat.reduceAdd,
    hindex, hstyle]
  rfl

end Format

/-- A character takes up at least one byte. -/
theorem runeCount_le_length (s : Bytes) : runeCount s ≤ s.length := by
  suffices h : ∀ skip, (runesAfter skip s).length ≤ s.length from h 0
  induction s with
  | nil => simp [runesAfter]
  | cons b s ih =>
    intro skip
    cases skip with
    | zero => simpa [runesAfter] using ih _
    | succ skip => exact Nat.le_succ_of_le (ih skip)

namespace Console

/-- A width that a format takes fills up a text to as many characters. -/
theorem leftAligned_eq {width : Nat} (hwidth : width ≤ Format.maxStar) (s : Bytes) :
    leftAligned width s = s ++ List.replicate (width - runeCount s) 0x20 := by
  have htemplate : utf8 "%-*s" = [0x25, 0x2d, 0x2a, 0x73] := rfl
  have hshown : Format.evaluate [.int width, .text s] 4 { rest := [0x25, 0x2d, 0x2a, 0x73] }
      = (Format.Style.pad { minus := true, width := some width } s, { rest := [], next := 2 }) := by
    rw [Format.evaluate_directive { rest := [0x25, 0x2d, 0x2a, 0x73] } rfl
      (Format.directive_leftAligned hwidth s), Format.evaluate_of_rest_nil rfl, List.append_nil]
  rw [leftAligned, htemplate, format]
  simp only [List.length_cons, List.length_nil, Nat.zero_add, Nat.reduceAdd, hshown]
  simp [Format.extraNote, Format.Style.pad, Format.Style.fillByte]

/-! ## The two columns -/

/-- The line of a flag with so many blanks between the two columns. -/
def flagLine (blanks : Nat) (name description : Bytes) : Bytes :=
  utf8 "  " ++ name ++ List.replicate blanks 0x20 ++ utf8 "  " ++ description ++ utf8 "\n"

theorem flagLine_eq_iff {m n : Nat} {name description : Bytes} :
    flagLine m name description = flagLine n name description ↔ m = n := by
  constructor
  · intro h
    have hlength := congrArg List.length h
    simp only [flagLine, List.length_append, List.length_replicate] at hlength
    omega
  · rintro rfl
    rfl

variable (c : Console) {name description : Bytes} {width : Nat}

/-- Without colours the name is filled up by its characters. -/
theorem helpFlag_uncolored (hwidth : width ≤ Format.maxStar) :
    (c.uncolored.helpFlag name description width).out
      = flagLine (width - runeCount name) name description := by
  show utf8 "  " ++ leftAligned width name ++ utf8 "  " ++ description ++ utf8 "\n" = _
  rw [leftAligned_eq hwidth, flagLine, List.append_assoc (utf8 "  ") name]

/-- With colours the name is filled up by its bytes. -/
theorem coloring_flagLine (hcolor : c.color = true) :
    Coloring (flagLine (width - name.length) name description)
      (c.helpFlag name description width).out := by
  have hblanks : ((width : Int) - name.length).toNat = width - name.length := by omega
  rw [helpFlag, if_pos hcolor, hblanks]
  have hname := (Coloring.refl (utf8 "  ")).append ((Coloring.highlight name).paint true [.yellow])
  exact (((hname.append (.refl _)).append (.refl _)).append
    ((Coloring.refl description).paint true [.dim])).append (.refl _)

theorem stripColors_helpFlag (hcolor : c.color = true) (hname : escByte ∉ name)
    (hdescription : escByte ∉ description) :
    stripColors (c.helpFlag name description width).out
      = flagLine (width - name.length) name description := by
  refine (c.coloring_flagLine hcolor).strip ?_
  have hblanks : escByte ∉ utf8 "  " := by decide
  have hfill : escByte ∉ List.replicate (width - name.length) (0x20 : UInt8) := fun h =>
    absurd (List.eq_of_mem_replicate h) (by decide)
  have hend : escByte ∉ utf8 "\n" := by decide
  simp only [flagLine, List.mem_append, not_or]
  exact ⟨⟨⟨⟨⟨hblanks, hname⟩, hfill⟩, hblanks⟩, hdescription⟩, hend⟩

/-- Taking the colours out of the line of a flag gives the line without colours exactly when the name has
as many characters as bytes, or so many characters that nothing is filled up. -/
theorem helpFlag_aligned_iff (hcolor : c.color = true) (hname : escByte ∉ name)
    (hdescription : escByte ∉ description) (hwidth : width ≤ Format.maxStar) :
    stripColors (c.helpFlag name description width).out
        = (c.uncolored.helpFlag name description width).out
      ↔ runeCount name = name.length ∨ width ≤ runeCount name := by
  have hle := runeCount_le_length name
  rw [c.stripColors_helpFlag hcolor hname hdescription, c.helpFlag_uncolored hwidth, flagLine_eq_iff]
  omega

/-- A name with characters beyond ASCII is in line where it is wider than its column, and nowhere else. -/
theorem helpFlag_aligned_wide_name :
    stripColors (helpFlag { color := true } "--größe=<n>" "d" 8).out
        = (helpFlag {} "--größe=<n>" "d" 8).out
      ∧ stripColors (helpFlag { color := true } "--größe=<n>" "d" 24).out
        ≠ (helpFlag {} "--größe=<n>" "d" 24).out := by
  have hname : escByte ∉ utf8 "--größe=<n>" := by decide
  have hdescription : escByte ∉ utf8 "d" := by decide
  have haligned (width : Nat) (hwidth : width ≤ Format.maxStar) :=
    helpFlag_aligned_iff { color := true } rfl hname hdescription hwidth
  have hcount : runeCount (utf8 "--größe=<n>") = 11 := by decide
  have hlength : (utf8 "--größe=<n>").length = 13 := by decide
  constructor
  · exact (haligned 8 (by decide)).mpr (.inr (by rw [hcount]; decide))
  · intro h
    have hcases := (haligned 24 (by decide)).mp h
    rw [hcount, hlength] at hcases
    omega

/-- With colours the description of a one-letter flag beyond ASCII stands one column to the left. -/
theorem helpFlag_not_aligned :
    isUtf8 "é" = true ∧ escByte ∉ utf8 "é" ∧ escByte ∉ utf8 "d" ∧
      stripColors (helpFlag { color := true } "é" "d" 5).out ≠ (helpFlag {} "é" "d" 5).out := by
  refine ⟨by decide, by decide, by decide, ?_⟩
  decide +kernel

end Console

end Golden
