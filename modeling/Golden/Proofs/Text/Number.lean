import Golden.Text.Number

/-!
# Numbers read back

A number in decimal consists of digits and says which number it is (`decimal_inj`). It ends where the digits
do (`decimal_append_inj`), so this holds in front of other text as well.
-/

namespace Golden

theorem toNat_toUInt8_of_isDigit {d : Char} (h : d.isDigit = true) :
    d.toUInt8.toNat = d.toNat ∧ 0x30 ≤ d.toNat ∧ d.toNat ≤ 0x39 := by
  simp only [Char.isDigit, Bool.and_eq_true, decide_eq_true_eq, ge_iff_le, UInt32.le_iff_toNat_le]
    at h
  obtain ⟨hlow, hhigh⟩ : 0x30 ≤ d.toNat ∧ d.toNat ≤ 0x39 := h
  refine ⟨?_, hlow, hhigh⟩
  show d.toNat % 256 = d.toNat
  omega

theorem isDigit_of_mem_decimal {b : UInt8} {n : Nat} (h : b ∈ decimal n) : isDigit b = true := by
  obtain ⟨d, hd, rfl⟩ := List.mem_map.mp h
  obtain ⟨hd, hlow, hhigh⟩ :=
    toNat_toUInt8_of_isDigit (Nat.isDigit_of_mem_toDigits (by decide) (by decide) hd)
  simp only [isDigit, Bool.and_eq_true, decide_eq_true_eq, UInt8.le_iff_toNat_le, hd]
  exact ⟨hlow, hhigh⟩

theorem not_mem_decimal {b : UInt8} (hb : isDigit b = false) (n : Nat) : b ∉ decimal n := by
  intro h
  rw [isDigit_of_mem_decimal h] at hb
  cases hb

theorem map_ofNat_decimal (n : Nat) :
    (decimal n).map (fun b => Char.ofNat b.toNat) = Nat.toDigits 10 n := by
  rw [decimal, digits, List.map_map]
  refine (List.map_congr_left fun d hd => ?_).trans (List.map_id _)
  obtain ⟨hd, -⟩ :=
    toNat_toUInt8_of_isDigit (Nat.isDigit_of_mem_toDigits (by decide) (by decide) hd)
  show Char.ofNat d.toUInt8.toNat = d
  rw [hd, Char.ofNat_toNat]

theorem decimal_inj {m n : Nat} (h : decimal m = decimal n) : m = n := by
  have hdigits : Nat.toDigits 10 m = Nat.toDigits 10 n := by
    rw [← map_ofNat_decimal, h, map_ofNat_decimal]
  rw [← Nat.ofDigitChars_ten_toDigits (n := m), hdigits, Nat.ofDigitChars_ten_toDigits]

theorem decimalInt_inj {i j : Int} (h : decimalInt i = decimalInt j) : i = j := by
  -- A number without a sign starts with a digit.
  have hsign : ∀ n s, decimal n ≠ (0x2d : UInt8) :: s := by
    intro n s heq
    exact not_mem_decimal (by decide) n (heq ▸ List.mem_cons_self : (0x2d : UInt8) ∈ decimal n)
  unfold decimalInt at h
  by_cases hi : i < 0 <;> by_cases hj : j < 0
  · rw [if_pos hi, if_pos hj] at h
    have habs := decimal_inj (List.cons.inj h).2
    omega
  · rw [if_pos hi, if_neg hj] at h
    exact absurd h.symm (hsign _ _)
  · rw [if_neg hi, if_pos hj] at h
    exact absurd h (hsign _ _)
  · rw [if_neg hi, if_neg hj] at h
    have habs := decimal_inj h
    omega

theorem takeWhile_decimal (n : Nat) {b : UInt8} (hb : isDigit b = false) (s : Bytes) :
    (decimal n ++ b :: s).takeWhile isDigit = decimal n := by
  rw [List.takeWhile_append_of_pos fun a ha => isDigit_of_mem_decimal ha,
    List.takeWhile_cons_of_neg (by simp [hb]), List.append_nil]

/-- A number ends where the digits do. -/
theorem decimal_append_inj {m n : Nat} {b : UInt8} (hb : isDigit b = false) {s t : Bytes}
    (h : decimal m ++ b :: s = decimal n ++ b :: t) : m = n ∧ s = t := by
  have hdigits : decimal m = decimal n := by
    rw [← takeWhile_decimal m hb s, h, takeWhile_decimal n hb t]
  rw [hdigits] at h
  exact ⟨decimal_inj hdigits, (List.cons.inj (List.append_cancel_left h)).2⟩

end Golden
