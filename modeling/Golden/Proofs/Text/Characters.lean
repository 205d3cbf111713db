import Golden.Proofs.Text.Words

/-!
# The ASCII characters of a text

A byte below `0x80` stands for a character of its own wherever it occurs, and no other character has such
a byte in it (`firstRune_cases`). So an ASCII character can be looked for among the bytes of a text or
among the characters that it shows, with the same result (`mem_characters_iff`,
`characters_eq_cons_iff`). This also holds of texts that are not UTF-8.
-/

namespace Golden

/-- The characters that a text shows. -/
def characters (s : Bytes) : List Char := (runes s).map Rune.shown

/-- The character of an ASCII byte. -/
def asciiChar (b : UInt8) : Char := Char.ofNat b.toNat

theorem val_asciiChar (b : UInt8) : (asciiChar b).val.toNat = b.toNat := by
  have hb := b.toNat_lt
  exact val_ofNat (Or.inl (by omega))

theorem asciiChar_inj {a b : UInt8} : asciiChar a = asciiChar b ↔ a = b := by
  refine ⟨fun h => ?_, fun h => h ▸ rfl⟩
  have hval := congrArg (fun c : Char => c.val.toNat) h
  simp only [val_asciiChar] at hval
  exact UInt8.toNat_inj.mp hval

/-! ## One place -/

/-- A byte of a longer encoding: some bits of the character below a mark that sets the highest bit. -/
theorem le_ofNat_add_mark {n bits mark : Nat} (hbits : 0 < bits) (hmark : 0x80 ≤ mark)
    (hsum : mark + bits ≤ 0x100) : (0x80 : UInt8) ≤ UInt8.ofNat (n % bits + mark) := by
  have hn := Nat.mod_lt n hbits
  rw [UInt8.le_iff_toNat_le, UInt8.toNat_ofNat', Nat.mod_eq_of_lt (by omega)]
  show 0x80 ≤ _
  omega

/-- A character beyond ASCII has no ASCII byte in it. -/
theorem le_of_mem_utf8EncodeChar {c : Char} {b : UInt8} (hc : 0x80 ≤ c.val.toNat)
    (hb : b ∈ String.utf8EncodeChar c) : 0x80 ≤ b := by
  simp only [String.utf8EncodeChar] at hb
  rw [if_neg (by omega)] at hb
  split_ifs at hb
  all_goals
    simp only [List.mem_cons, List.not_mem_nil, or_false] at hb
  · rcases hb with rfl | rfl
    all_goals exact le_ofNat_add_mark (by decide) (by decide) (by decide)
  · rcases hb with rfl | rfl | rfl
    all_goals exact le_ofNat_add_mark (by decide) (by decide) (by decide)
  · rcases hb with rfl | rfl | rfl | rfl
    all_goals exact le_ofNat_add_mark (by decide) (by decide) (by decide)

theorem firstRune_ascii {a : UInt8} (ha : a < 0x80) (s : Bytes) :
    firstRune a s = (.char (asciiChar a), 0) := by
  unfold firstRune
  exact if_pos ha

/-- What a byte begins is its own character where it is an ASCII byte, and otherwise neither shows an ASCII
character nor has an ASCII byte in it. -/
theorem firstRune_cases (a : UInt8) (s : Bytes) :
    (a < 0x80 ∧ firstRune a s = (.char (asciiChar a), 0)) ∨
    (0x80 ≤ (firstRune a s).1.shown.val.toNat ∧ ∀ b ∈ (firstRune a s).1.bytes, 0x80 ≤ b) := by
  by_cases ha : a < 0x80
  · exact .inl ⟨ha, firstRune_ascii ha s⟩
  · right
    have hbytes := firstRune_bytes a s
    cases hfirst : (firstRune a s).1 with
    | stray b =>
      rw [hfirst] at hbytes
      obtain ⟨rfl, -⟩ := List.cons.inj hbytes
      refine ⟨by simp only [Rune.shown]; decide, fun b' hb' => ?_⟩
      rw [List.mem_singleton.mp hb']
      exact UInt8.not_lt.mp ha
    | char c =>
      rw [hfirst] at hbytes
      rcases Nat.lt_or_ge c.val.toNat 0x80 with hc | hc
      · -- an ASCII character has one byte, which would be the first
        have hone : String.utf8EncodeChar c = [UInt8.ofNat c.val.toNat] := by
          simp only [String.utf8EncodeChar]
          rw [if_pos (by omega)]
        obtain ⟨rfl, -⟩ := List.cons.inj (hone.symm.trans hbytes)
        refine absurd (UInt8.lt_iff_toNat_lt.mpr ?_) ha
        rw [UInt8.toNat_ofNat', Nat.mod_eq_of_lt (by omega)]
        exact hc
      · exact ⟨hc, fun b hb => le_of_mem_utf8EncodeChar hc hb⟩

/-! ## Texts -/

section Texts

variable {s : Bytes} {b : UInt8}

theorem characters_cons (hb : b < 0x80) (s : Bytes) :
    characters (b :: s) = asciiChar b :: characters s := by
  rw [characters, runes, runesAfter, firstRune_ascii hb]
  rfl

theorem runes_ascii (h : ∀ a ∈ s, a < 0x80) : runes s = s.map fun a => .char (asciiChar a) := by
  induction s with
  | nil => rfl
  | cons a s ih =>
    rw [runes, runesAfter, firstRune_ascii (h a List.mem_cons_self), List.map_cons]
    exact congrArg _ (ih fun b hb => h b (List.mem_cons_of_mem a hb))

theorem characters_eq_nil_iff : characters s = [] ↔ s = [] := by
  cases s with
  | nil => exact iff_of_true rfl rfl
  | cons a s => exact iff_of_false (by simp [characters, runes, runesAfter]) (by simp)

theorem mem_place_iff {a : UInt8} (hb : b < 0x80) :
    (firstRune a s).1.shown = asciiChar b ↔ b ∈ (firstRune a s).1.bytes := by
  rcases firstRune_cases a s with ⟨ha, hfirst⟩ | ⟨hshown, hbytes⟩
  · have hbytes : (Rune.char (asciiChar a)).bytes = [a] := char1_bytes ha
    rw [hfirst, hbytes, List.mem_singleton]
    exact asciiChar_inj.trans eq_comm
  · refine iff_of_false (fun h => ?_) fun h => absurd hb (UInt8.not_lt.mpr (hbytes b h))
    rw [h, val_asciiChar] at hshown
    have hlt := UInt8.lt_iff_toNat_lt.mp hb
    simp only [UInt8.reduceToNat] at hlt
    omega

/-- An ASCII character is shown by a text iff its byte is in it. -/
theorem mem_characters_iff (hb : b < 0x80) : asciiChar b ∈ characters s ↔ b ∈ s := by
  have hplace {r : Rune} (hr : r ∈ runes s) : r.shown = asciiChar b ↔ b ∈ r.bytes := by
    obtain ⟨before, after, happend⟩ := List.append_of_mem hr
    obtain ⟨a, s', rfl, -⟩ := runesAfter_eq_append happend
    exact mem_place_iff hb
  have hbytes : (runes s).flatMap Rune.bytes = s := encodeRunes_runesAfter 0 s
  have hmem : b ∈ s ↔ ∃ r ∈ runes s, b ∈ r.bytes := by
    rw [← List.mem_flatMap, hbytes]
  rw [hmem, characters, List.mem_map]
  constructor
  · rintro ⟨r, hr, hshown⟩
    exact ⟨r, hr, (hplace hr).mp hshown⟩
  · rintro ⟨r, hr, hmem⟩
    exact ⟨r, hr, (hplace hr).mpr hmem⟩

/-- A text shows an ASCII character first iff it begins with its byte. -/
theorem characters_eq_cons_iff (hb : b < 0x80) {cs : List Char} :
    characters s = asciiChar b :: cs ↔ ∃ s', s = b :: s' ∧ characters s' = cs := by
  constructor
  · intro h
    cases s with
    | nil => cases h
    | cons a s =>
      obtain ⟨hshown, hrest⟩ := List.cons.inj h
      have hmem := (mem_place_iff hb).mp hshown
      rcases firstRune_cases a s with ⟨ha, hfirst⟩ | ⟨-, hbytes⟩
      · rw [characters_cons ha] at h
        obtain ⟨hchar, hcs⟩ := List.cons.inj h
        exact ⟨s, by rw [asciiChar_inj.mp hchar], hcs⟩
      · exact absurd hb (UInt8.not_lt.mpr (hbytes b hmem))
  · rintro ⟨s', rfl, rfl⟩
    exact characters_cons hb s'

end Texts

end Golden
