import Golden.Text.Space
import Mathlib.Tactic.SplitIfs

/-!
# Places and words of a text

What is read from a text is written back as it was (`encodeRunes_runesAfter`), and a character that has
been read does not change when bytes follow (`firstRune_append`). So a word, which is a part of the
text, reads as it did there, and since it does not start with white space there it is not blank
(`fields_not_blank`). This also holds of texts that are not UTF-8.
-/

namespace Golden

/-! ## Reading and writing characters -/

theorem val_ofNat {n : Nat} (h : n.isValidChar) : (Char.ofNat n).val.toNat = n := by
  rw [Char.ofNat, dif_pos h]
  rfl

theorem ofNat_eq_of_toNat {n : Nat} {b : UInt8} (h : n = b.toNat) : UInt8.ofNat n = b := by
  rw [h, UInt8.ofNat_toNat]

theorem char1_bytes {a : UInt8} (h : a < 0x80) :
    String.utf8EncodeChar (Char.ofNat a.toNat) = [a] := by
  have ha : a.toNat < 0x80 := UInt8.lt_iff_toNat_lt.mp h
  have hvalid : a.toNat.isValidChar := Or.inl (by omega)
  simp only [String.utf8EncodeChar, val_ofNat hvalid]
  rw [if_pos (by omega), ofNat_eq_of_toNat rfl]

theorem char2_bytes {a b : UInt8} {ch : Char} (h : char2 a b = some ch) :
    String.utf8EncodeChar ch = [a, b] := by
  unfold char2 at h
  split_ifs at h with hrange
  obtain rfl := Option.some.inj h
  simp only [isContinuation, Bool.and_eq_true, decide_eq_true_eq, UInt8.le_iff_toNat_le,
    UInt8.reduceToNat] at hrange
  unfold continuationBits
  have hvalid : (a.toNat % 0x20 * 0x40 + b.toNat % 0x40).isValidChar := Or.inl (by omega)
  simp only [String.utf8EncodeChar, val_ofNat hvalid]
  rw [if_neg (by omega), if_pos (by omega), ofNat_eq_of_toNat (b := a) (by omega),
    ofNat_eq_of_toNat (b := b) (by omega)]

theorem char3_bytes {a b c : UInt8} {ch : Char} (h : char3 a b c = some ch) :
    String.utf8EncodeChar ch = [a, b, c] := by
  unfold char3 at h
  dsimp only at h
  split_ifs at h with hrange
  obtain rfl := Option.some.inj h
  simp only [isContinuation, Bool.and_eq_true, Bool.not_eq_true', Bool.and_eq_false_iff,
    decide_eq_true_eq, decide_eq_false_iff_not, UInt8.le_iff_toNat_le, UInt8.reduceToNat] at hrange
  unfold continuationBits at hrange ⊢
  obtain ⟨⟨⟨⟨⟨ha, ha'⟩, hb⟩, hc⟩, hshortest⟩, hsurrogate⟩ := hrange
  have hvalid : (a.toNat % 0x10 * 0x1000 + b.toNat % 0x40 * 0x40 + c.toNat % 0x40).isValidChar := by
    unfold Nat.isValidChar
    omega
  simp only [String.utf8EncodeChar, val_ofNat hvalid]
  rw [if_neg (by omega), if_neg (by omega), if_pos (by omega), ofNat_eq_of_toNat (b := a) (by omega),
    ofNat_eq_of_toNat (b := b) (by omega), ofNat_eq_of_toNat (b := c) (by omega)]

theorem char4_bytes {a b c d : UInt8} {ch : Char} (h : char4 a b c d = some ch) :
    String.utf8EncodeChar ch = [a, b, c, d] := by
  unfold char4 at h
  dsimp only at h
  split_ifs at h with hrange
  obtain rfl := Option.some.inj h
  simp only [isContinuation, Bool.and_eq_true, decide_eq_true_eq, UInt8.le_iff_toNat_le,
    UInt8.reduceToNat] at hrange
  unfold continuationBits at hrange ⊢
  obtain ⟨⟨⟨⟨⟨⟨ha, ha'⟩, hb⟩, hc⟩, hd⟩, hshortest⟩, hlast⟩ := hrange
  have hvalid : (a.toNat % 8 * 0x40000 + b.toNat % 0x40 * 0x1000 + c.toNat % 0x40 * 0x40
      + d.toNat % 0x40).isValidChar := Or.inr (by omega)
  simp only [String.utf8EncodeChar, val_ofNat hvalid]
  rw [if_neg (by omega), if_neg (by omega), if_neg (by omega), ofNat_eq_of_toNat (b := a) (by omega),
    ofNat_eq_of_toNat (b := b) (by omega), ofNat_eq_of_toNat (b := c) (by omega),
    ofNat_eq_of_toNat (b := d) (by omega)]

/-- The first place of a text takes up the bytes that it was read from. -/
theorem firstRune_bytes (a : UInt8) (s : Bytes) :
    (firstRune a s).1.bytes = a :: s.take (firstRune a s).2 := by
  unfold firstRune
  by_cases ha : a < 0x80
  · rw [if_pos ha]
    exact char1_bytes ha
  · rw [if_neg ha]
    match s with
    | [] => rfl
    | [b] =>
      cases h2 : char2 a b with
      | some ch => simp only [h2]; exact char2_bytes h2
      | none => simp only [h2]; rfl
    | [b, c] =>
      cases h2 : char2 a b with
      | some ch => simp only [h2]; exact char2_bytes h2
      | none =>
        cases h3 : char3 a b c with
        | some ch => simp only [h2, h3]; exact char3_bytes h3
        | none => simp only [h2, h3]; rfl
    | b :: c :: d :: s =>
      cases h2 : char2 a b with
      | some ch => simp only [h2]; exact char2_bytes h2
      | none =>
        cases h3 : char3 a b c with
        | some ch => simp only [h2, h3]; exact char3_bytes h3
        | none =>
          cases h4 : char4 a b c d with
          | some ch => simp only [h2, h3, h4]; exact char4_bytes h4
          | none => simp only [h2, h3, h4]; rfl

/-- A character that is read stays the same when more bytes follow. -/
theorem firstRune_append {a : UInt8} {s : Bytes} {ch : Char} {n : Nat}
    (h : firstRune a s = (.char ch, n)) (t : Bytes) : firstRune a (s ++ t) = (.char ch, n) := by
  unfold firstRune at h ⊢
  by_cases ha : a < 0x80
  · rw [if_pos ha] at h ⊢
    exact h
  · rw [if_neg ha] at h ⊢
    match s with
    | [] => cases h
    | [b] =>
      cases h2 : char2 a b with
      | some _ => simpa only [List.cons_append, h2] using h
      | none =>
        simp only [h2] at h
        cases h
    | [b, c] =>
      cases h2 : char2 a b with
      | some _ => simpa only [List.cons_append, h2] using h
      | none =>
        cases h3 : char3 a b c with
        | some _ => simpa only [List.cons_append, h2, h3] using h
        | none =>
          simp only [h2, h3] at h
          cases h
    | b :: c :: d :: s => simpa only [List.cons_append] using h

/-! ## Places -/

/-- Writing down what is read gives the text back. -/
theorem encodeRunes_runesAfter (skip : Nat) (s : Bytes) :
    encodeRunes (runesAfter skip s) = s.drop skip := by
  induction s generalizing skip with
  | nil => cases skip <;> rfl
  | cons a s ih =>
    cases skip with
    | zero =>
      rw [runesAfter, encodeRunes, List.flatMap_cons, firstRune_bytes]
      show a :: s.take _ ++ encodeRunes (runesAfter _ s) = a :: s
      rw [ih, List.cons_append, List.take_append_drop]
    | succ skip => exact ih skip

/-- What is read from some place on is read from the bytes from there on. -/
theorem runesAfter_eq_append {skip : Nat} {s : Bytes} {before rest : List Rune} {r : Rune}
    (h : runesAfter skip s = before ++ r :: rest) :
    ∃ a s', r = (firstRune a s').1 ∧ rest = runesAfter (firstRune a s').2 s' := by
  induction s generalizing skip before with
  | nil => cases skip <;> simp [runesAfter] at h
  | cons a s ih =>
    cases skip with
    | zero =>
      rw [runesAfter] at h
      cases before with
      | nil =>
        obtain ⟨hr, hrest⟩ := List.cons.inj h
        exact ⟨a, s, hr.symm, hrest.symm⟩
      | cons r' before => exact ih (List.cons.inj h).2
    | succ skip => exact ih h

/-! ## Words -/

theorem wordsFrom_eq_nil_iff (word rs : List Rune) :
    wordsFrom word rs = [] ↔ word = [] ∧ rs.all Rune.isSpace = true := by
  induction rs generalizing word with
  | nil => cases word <;> simp [wordsFrom]
  | cons r rs ih =>
    cases word with
    | nil => by_cases hr : r.isSpace <;> simp [wordsFrom, hr, ih]
    | cons w word => by_cases hr : r.isSpace <;> simp [wordsFrom, hr, ih]

/-- A text has no words iff it is blank. -/
theorem fields_eq_nil_iff (s : Bytes) : fields s = [] ↔ isBlank s = true := by
  rw [fields, List.map_eq_nil_iff, wordsFrom_eq_nil_iff, isBlank]
  simp

/-- A word is a stretch without white space. -/
theorem mem_wordsFrom {word rs w : List Rune} (h : w ∈ wordsFrom word rs)
    (hword : ∀ r ∈ word, r.isSpace = false) :
    w ≠ [] ∧ (∀ r ∈ w, r.isSpace = false) ∧
      ∃ before after, word.reverse ++ rs = before ++ w ++ after := by
  induction rs generalizing word with
  | nil =>
    rw [wordsFrom] at h
    by_cases hempty : word.isEmpty = true
    · rw [if_pos hempty] at h
      cases h
    · rw [if_neg hempty, List.mem_singleton] at h
      subst h
      refine ⟨?_, fun r hr => hword r (List.mem_reverse.mp hr), [], [], by simp⟩
      simpa using hempty
  | cons r rs ih =>
    rw [wordsFrom] at h
    by_cases hr : r.isSpace = true
    · rw [if_pos hr] at h
      by_cases hempty : word.isEmpty = true
      · rw [if_pos hempty] at h
        obtain rfl := List.isEmpty_iff.mp hempty
        obtain ⟨hne, hspaces, before, after, heq⟩ := ih h hword
        exact ⟨hne, hspaces, r :: before, after, congrArg (r :: ·) heq⟩
      · rw [if_neg hempty, List.mem_cons] at h
        rcases h with rfl | h
        · refine ⟨?_, fun r hr => hword r (List.mem_reverse.mp hr), [], r :: rs, rfl⟩
          simpa using hempty
        · obtain ⟨hne, hspaces, before, after, heq⟩ := ih h nofun
          refine ⟨hne, hspaces, word.reverse ++ r :: before, after, ?_⟩
          rw [List.reverse_nil, List.nil_append] at heq
          simp [heq]
    · rw [if_neg hr] at h
      have hr' : r.isSpace = false := Bool.not_eq_true _ ▸ hr
      obtain ⟨hne, hspaces, before, after, heq⟩ := ih h (List.forall_mem_cons.mpr ⟨hr', hword⟩)
      refine ⟨hne, hspaces, before, after, ?_⟩
      rw [← heq]
      simp

/-- No word of a text is blank. -/
theorem fields_not_blank {s w : Bytes} (h : w ∈ fields s) : isBlank w = false := by
  obtain ⟨rs, hrs, rfl⟩ := List.mem_map.mp h
  obtain ⟨hne, hspaces, before, after, heq⟩ := mem_wordsFrom hrs nofun
  cases rs with
  | nil => exact absurd rfl hne
  | cons r rs =>
    rw [List.reverse_nil, List.nil_append, runes, List.append_assoc, List.cons_append] at heq
    obtain ⟨a, s', hr, hrest⟩ := runesAfter_eq_append heq
    have hbytes : encodeRunes (r :: rs) = a :: (s'.take (firstRune a s').2 ++ encodeRunes rs) := by
      show r.bytes ++ encodeRunes rs = _
      rw [hr, firstRune_bytes]
      rfl
    have hsplit : (s'.take (firstRune a s').2 ++ encodeRunes rs) ++ encodeRunes after = s' := by
      have hencoded := congrArg encodeRunes hrest
      rw [encodeRunes_runesAfter, encodeRunes, List.flatMap_append] at hencoded
      show _ ++ List.flatMap _ rs ++ List.flatMap _ after = s'
      rw [List.append_assoc, hencoded, List.take_append_drop]
    -- Cut off behind the word, its first place reads as the same character or as a stray byte.
    have hfirst : ∀ ch n,
        firstRune a (s'.take (firstRune a s').2 ++ encodeRunes rs) = (.char ch, n) →
          isSpace ch = false := by
      intro ch n hchar
      have hwhole := firstRune_append hchar (encodeRunes after)
      rw [hsplit] at hwhole
      have hspace := hspaces r List.mem_cons_self
      rw [hr, hwhole] at hspace
      exact hspace
    rw [hbytes, isBlank, runes, runesAfter, List.all_cons, Bool.and_eq_false_iff]
    left
    rcases hread : firstRune a (s'.take (firstRune a s').2 ++ encodeRunes rs) with ⟨ch | b, n⟩
    · exact hfirst ch n hread
    · rfl

end Golden
