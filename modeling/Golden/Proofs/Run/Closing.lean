import Golden.Proofs.Run.Totals
import Golden.Proofs.Text.Number

/-!
# The last line of a summary

A summary closes with one of three lines (`Closing`). The line says which of them it is and what numbers
stand in it, in colours and without (`Closing.line_inj`), so a printed summary can be asked what it says:
it says what its counters do and nothing else (`endsWithLine_print_iff`).
-/

namespace Golden

/-! ## Last lines -/

/-- What a summary says at its end. -/
inductive Closing where
  | allPassed (passed : Nat)
  | someSkipped (passed skipped : Nat)
  | someFailed (failed : Nat) (total : Int)
deriving DecidableEq

namespace Closing

/-- The words for it. -/
def text : Closing → Bytes
  | .allPassed passed => "All " ++ decimal passed ++ " test cases passed."
  | .someSkipped passed skipped =>
    decimal passed ++ " test cases passed, " ++ decimal skipped ++ " incomplete skipped."
  | .someFailed failed total => decimal failed ++ " of " ++ decimalInt total ++ " test cases failed."

/-- Does it report a success? -/
def isSuccess : Closing → Bool
  | .allPassed _ => true
  | .someSkipped _ _ => true
  | .someFailed _ _ => false

/-- The line as it is printed. -/
def line (c : Console) (x : Closing) : Bytes :=
  c.paint [if x.isSuccess then .green else .red] x.text

variable {c : Console} {x y : Closing}

/-- The fourth byte from the end tells the three lines apart. -/
def mark : Closing → UInt8
  | .allPassed _ => 's'
  | .someSkipped _ _ => 'p'
  | .someFailed _ _ => 'l'

theorem text_mark (x : Closing) : x.text.reverse[3]? = some x.mark := by
  cases x with
  | allPassed n => rw [text, List.reverse_append]; rfl
  | someSkipped n k => rw [text, List.reverse_append]; rfl
  | someFailed n m => rw [text, List.reverse_append]; rfl

theorem text_inj (h : x.text = y.text) : x = y := by
  have hmark : x.mark = y.mark := by
    have hmarks := text_mark x
    rw [h, text_mark y] at hmarks
    exact (Option.some.inj hmarks).symm
  cases x with
  | allPassed n =>
    cases y with
    | allPassed n' =>
      have hn := List.append_cancel_left (List.append_cancel_right h)
      rw [decimal_inj hn]
    | someSkipped | someFailed => exact absurd hmark (by simp only [mark]; decide)
  | someSkipped n k =>
    cases y with
    | someSkipped n' k' =>
      have hnumbers := List.append_cancel_right h
      rw [List.append_assoc, List.append_assoc] at hnumbers
      obtain ⟨rfl, hrest⟩ := decimal_append_inj (b := 0x20) rfl hnumbers
      have hk : utf8 "test cases passed, " ++ decimal k = utf8 "test cases passed, " ++ decimal k' := hrest
      rw [decimal_inj (List.append_cancel_left hk)]
    | allPassed | someFailed => exact absurd hmark (by simp only [mark]; decide)
  | someFailed n m =>
    cases y with
    | someFailed n' m' =>
      have hnumbers := List.append_cancel_right h
      rw [List.append_assoc, List.append_assoc] at hnumbers
      obtain ⟨rfl, hrest⟩ := decimal_append_inj (b := 0x20) rfl hnumbers
      have hm : utf8 "of " ++ decimalInt m = utf8 "of " ++ decimalInt m' := hrest
      rw [decimalInt_inj (List.append_cancel_left hm)]
    | allPassed | someSkipped => exact absurd hmark (by simp only [mark]; decide)

theorem line_inj (h : x.line c = y.line c) : x = y := by
  unfold line Console.paint paint at h
  by_cases hcolor : c.color = true
  · rw [if_pos hcolor, if_pos hcolor] at h
    have hpainted := List.append_cancel_right h
    by_cases hsame : x.isSuccess = y.isSuccess
    · rw [hsame] at hpainted
      exact text_inj (List.append_cancel_left hpainted)
    · -- The inks differ in their fourth byte.
      have hink := congrArg (·[3]?) hpainted
      cases hx : x.isSuccess <;> cases hy : y.isSuccess <;> rw [hx, hy] at hink hsame
      · exact absurd rfl hsame
      · cases hink
      · cases hink
      · exact absurd rfl hsame
  · rw [if_neg hcolor, if_neg hcolor] at h
    exact text_inj h

theorem newline_not_mem_text (x : Closing) : (0x0a : UInt8) ∉ x.text := by
  have hnumber := not_mem_decimal (show isDigit 0x0a = false by decide)
  cases x with
  | allPassed n =>
    simp only [text, List.mem_append, not_or]
    exact ⟨⟨by decide, hnumber n⟩, by decide⟩
  | someSkipped n k =>
    simp only [text, List.mem_append, not_or]
    exact ⟨⟨⟨hnumber n, by decide⟩, hnumber k⟩, by decide⟩
  | someFailed n m =>
    simp only [text, List.mem_append, not_or]
    refine ⟨⟨⟨hnumber n, by decide⟩, ?_⟩, by decide⟩
    unfold decimalInt
    split
    · rw [List.mem_cons, not_or]
      exact ⟨by decide, hnumber _⟩
    · exact hnumber _

theorem newline_not_mem_line (c : Console) (x : Closing) : (0x0a : UInt8) ∉ x.line c := by
  have htext := newline_not_mem_text x
  unfold line Console.paint paint
  split
  · simp only [List.mem_append, not_or]
    refine ⟨⟨?_, htext⟩, by decide⟩
    cases x.isSuccess <;> decide
  · exact htext

end Closing

/-- What is written to standard output ends with this line. -/
def EndsWithLine (o : Output) (line : Bytes) : Prop :=
  (0x0a : UInt8) ∉ line ∧ ∃ before, o.out = before ++ (0x0a : UInt8) :: line ++ [0x0a]

/-- There is only one last line. -/
theorem EndsWithLine.unique {o : Output} {a b : Bytes} (ha : EndsWithLine o a)
    (hb : EndsWithLine o b) : a = b := by
  obtain ⟨hna, before, hout⟩ := ha
  obtain ⟨hnb, before', hout'⟩ := hb
  have hlines := List.append_cancel_right (hout.symm.trans hout')
  -- The line before ends at the last newline, so both begin at the same place.
  have hlength : before.length = before'.length := by
    have hlast := Bytes.lastIndexOf_append_cons (s := before) hna
    rw [hlines, Bytes.lastIndexOf_append_cons hnb] at hlast
    exact (Option.some.inj hlast).symm
  exact (List.cons.inj (List.append_inj hlines hlength).2).2

namespace Summary

variable {s : Summary} {c : Console} {elapsed : Duration}

/-- What the summary says at its end. -/
def closing (s : Summary) : Closing :=
  if s.ok then
    if s.incomplete > 0 then .someSkipped s.passed s.incomplete else .allPassed s.passed
  else .someFailed s.failedResults.length s.total

theorem finalLine_eq (s : Summary) (c : Console) :
    s.finalLine c = .line [] ++ .line (s.closing.line c) := by
  unfold finalLine closing
  by_cases hok : s.ok = true
  · rw [if_pos hok, if_pos hok]
    split
    · rfl
    · rfl
  · rw [if_neg hok, if_neg hok]
    rfl

theorem endsWithLine_print (s : Summary) (c : Console) (elapsed : Duration) :
    EndsWithLine (s.print c elapsed) (s.closing.line c) := by
  refine ⟨Closing.newline_not_mem_line c _,
    (c.summaryHeader "Summary" ++ s.totals c elapsed ++ s.failureList c).out, ?_⟩
  rw [print, finalLine_eq, List.append_assoc]
  rfl

theorem endsWithLine_print_iff {x : Closing} :
    EndsWithLine (s.print c elapsed) (x.line c) ↔ x = s.closing := by
  constructor
  · intro h
    exact Closing.line_inj (h.unique (s.endsWithLine_print c elapsed))
  · rintro rfl
    exact s.endsWithLine_print c elapsed

end Summary

end Golden
