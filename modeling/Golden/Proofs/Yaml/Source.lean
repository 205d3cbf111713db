import Golden.Proofs.Text.Characters
import Golden.Proofs.Yaml.Cursor
import Mathlib.Tactic.SplitIfs

/-!
# Streams of ASCII

Line feeds and printable ASCII characters can always be read, one byte for each: no window of such a
stream is broken (`windows_plain`), and a cursor at its start stands before its characters
(`ofBytes_at`).
-/

namespace Golden.Yaml

/-- A line feed or a printable ASCII character. -/
def isPlainByte (a : UInt8) : Bool := a == 0x0a || (0x20 ≤ a && a ≤ 0x7e)

theorem toNat_of_isPlainByte {a : UInt8} (h : isPlainByte a) :
    a.toNat = 0x0a ∨ (0x20 ≤ a.toNat ∧ a.toNat ≤ 0x7e) := by
  simp only [isPlainByte, Bool.or_eq_true, Bool.and_eq_true, beq_iff_eq, decide_eq_true_eq] at h
  exact h.imp (congrArg UInt8.toNat) (And.imp UInt8.le_iff_toNat_le.mp UInt8.le_iff_toNat_le.mp)

theorem lt_of_isPlainByte {a : UInt8} (h : isPlainByte a) : a < 0x80 := by
  have hrange := toNat_of_isPlainByte h
  rw [UInt8.lt_iff_toNat_lt]
  simp only [UInt8.reduceToNat]
  omega

theorem frontUtf8_plain {a : UInt8} (h : isPlainByte a) (s : Bytes) :
    frontUtf8 a s = .char (asciiChar a) 1 := by
  have hrange := toNat_of_isPlainByte h
  have hval : (asciiChar a).toNat = a.toNat := val_asciiChar a
  have hallowed : isAllowed (asciiChar a).toNat = true := by
    rw [hval]
    simp only [isAllowed, Bool.or_eq_true, Bool.and_eq_true, beq_iff_eq, decide_eq_true_eq]
    omega
  rw [frontUtf8, announcedWidth, if_pos (lt_of_isPlainByte h), firstRune_ascii (lt_of_isPlainByte h)]
  simp only
  rw [if_neg (by omega), frontOf, if_pos hallowed, hval]
  rfl

variable {s : Bytes}

theorem decodeWindow_plain {fuel : Nat} (h : ∀ a ∈ s, isPlainByte a) (hfuel : s.length ≤ fuel) :
    decodeWindow .utf8 fuel s = some (s.map asciiChar, []) := by
  induction s generalizing fuel with
  | nil => cases fuel <;> rfl
  | cons a s ih =>
    cases fuel with
    | zero => exact absurd hfuel (Nat.not_succ_le_zero _)
    | succ fuel =>
      have hs := ih (fun b hb => h b (List.mem_cons_of_mem a hb)) (Nat.le_of_succ_le_succ hfuel)
      simp only [decodeWindow, front, frontUtf8_plain (h a List.mem_cons_self), List.drop_one,
        List.tail_cons, hs, Option.map_some, List.map_cons]

/-- Wherever the windows divide such a stream, its characters are read. -/
theorem windows_plain {fuel size : Nat} (h : ∀ a ∈ s, isPlainByte a) (hfuel : s.length ≤ fuel)
    (hsize : 0 < size) :
    Chunk.broken ∉ windows .utf8 fuel size s ∧
      (windows .utf8 fuel size s).flatMap Chunk.text = s.map asciiChar := by
  induction fuel generalizing size s with
  | zero =>
    obtain rfl : s = [] := List.length_eq_zero_iff.mp (Nat.le_zero.mp hfuel)
    exact ⟨List.not_mem_nil, rfl⟩
  | succ fuel ih =>
    cases s with
    | nil => exact ⟨List.not_mem_nil, rfl⟩
    | cons a s =>
      have hwindow : decodeWindow .utf8 size ((a :: s).take size) =
          some (((a :: s).take size).map asciiChar, []) :=
        decodeWindow_plain (fun b hb => h b (List.mem_of_mem_take hb)) (List.length_take_le size (a :: s))
      simp only [windows, hwindow, List.isEmpty_nil, if_true, List.nil_append]
      split_ifs with hlast
      · have hall : (a :: s).take size = a :: s :=
          List.take_of_length_le (List.drop_eq_nil_iff.mp (List.isEmpty_iff.mp hlast))
        rw [hall]
        exact ⟨by simp, List.append_nil _⟩
      · have hdrop : ((a :: s).drop size).length ≤ fuel := by
          rw [List.length_drop]
          omega
        have hpos : 0 < windowSize := by decide
        obtain ⟨hwhole, htext⟩ := ih (fun b hb => h b (List.mem_of_mem_drop hb)) hdrop hpos
        refine ⟨?_, ?_⟩
        · rw [List.mem_cons]
          rintro (hbroken | hmem)
          · cases hbroken
          · exact hwhole hmem
        · rw [List.flatMap_cons, htext, Chunk.text, ← List.map_append, List.take_append_drop]

theorem detectEncoding_plain (h : ∀ a ∈ s, isPlainByte a) : detectEncoding s = (.utf8, 0) := by
  unfold detectEncoding
  split
  · exact absurd (h _ List.mem_cons_self) (by decide)
  · exact absurd (h _ List.mem_cons_self) (by decide)
  · exact absurd (h _ List.mem_cons_self) (by decide)
  · rfl

/-- At its start a cursor stands before all the characters of such a stream. -/
theorem ofBytes_at (h : ∀ a ∈ s, isPlainByte a) : (Cursor.ofBytes s).At (s.map asciiChar) := by
  obtain ⟨hwhole, htext⟩ := windows_plain h (Nat.le_succ _) (by decide : 0 < windowSize)
  have hchunks : chunks s = windows .utf8 (s.length + 1) windowSize s := by
    rw [chunks, detectEncoding_plain h]
    rfl
  rw [← hchunks] at hwhole htext
  refine ⟨htext, hwhole, rfl, fun hmem => ?_⟩
  obtain ⟨a, ha, hmark⟩ := List.mem_map.mp hmem
  have hrange := toNat_of_isPlainByte (h a ha)
  have hval := val_asciiChar a
  rw [hmark] at hval
  simp at hval
  omega

end Golden.Yaml
