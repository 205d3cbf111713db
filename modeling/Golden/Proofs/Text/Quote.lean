import Golden.Proofs.Text.Characters
import Golden.Text.Quote
import Mathlib.Algebra.Group.Nat.Defs

/-!
# Quoted texts read back

What quoting makes of one place of a text tells which place it was, whatever follows
(`unquoteRune?_quoteRune`): an escape says by its letter how many digits belong to it, and everything else
is a character as it is. So two texts that look the same in quotes are the same (`quote_inj`). This also
holds of texts that are not UTF-8: an escape of two digits stands for an ASCII character or for a byte that
begins none.
-/

namespace Golden

/-! ## Hexadecimal numbers -/

/-- The number that hexadecimal digits stand for. -/
def hexNumber (s : Bytes) : Nat := s.foldl (fun n b => n * 16 + (hexValue b).getD 0) 0

theorem hexNumber_append_singleton (s : Bytes) (b : UInt8) :
    hexNumber (s ++ [b]) = hexNumber s * 16 + (hexValue b).getD 0 := by
  simp [hexNumber]

theorem hexValue_digitChar : ∀ n < 16, hexValue (Nat.digitChar n).toUInt8 = some n := by decide

theorem hexNumber_digits (n : Nat) : hexNumber (digits 16 n) = n := by
  induction n using Nat.strongRecOn with
  | ind n ih =>
    rcases Nat.lt_or_ge n 16 with hlt | hge
    · rw [digits, Nat.toDigits_of_lt_base hlt]
      simp [hexNumber, hexValue_digitChar n hlt]
    · have hdigits : digits 16 n = digits 16 (n / 16) ++ [(Nat.digitChar (n % 16)).toUInt8] := by
        rw [digits, digits, Nat.toDigits_of_base_le (by decide) hge, List.map_append]
        rfl
      rw [hdigits, hexNumber_append_singleton, ih (n / 16) (by omega),
        hexValue_digitChar _ (Nat.mod_lt n (by decide)), Option.getD_some]
      omega

theorem hexNumber_hexPadded (width n : Nat) : hexNumber (hexPadded width n) = n := by
  have hzeros (k : Nat) (s : Bytes) : hexNumber (List.replicate k 0x30 ++ s) = hexNumber s := by
    induction k with
    | zero => rfl
    | succ k ih => exact ih
  rw [hexPadded, padLeft, hzeros, hexNumber_digits]

theorem length_hexPadded {width n : Nat} (hwidth : 0 < width) (hn : n < 16 ^ width) :
    (hexPadded width n).length = width := by
  have hdigits : (digits 16 n).length ≤ width := by
    rw [digits, List.length_map]
    exact (Nat.length_toDigits_le_iff (by decide) hwidth).mpr hn
  simp only [hexPadded, padLeft, List.length_append, List.length_replicate]
  omega

/-- Digits to a width say where they end. -/
theorem hexPadded_append {width n : Nat} (hwidth : 0 < width) (hn : n < 16 ^ width) (t : Bytes) :
    hexNumber ((hexPadded width n ++ t).take width) = n ∧ (hexPadded width n ++ t).drop width = t := by
  have hlength := length_hexPadded hwidth hn
  rw [List.take_left' hlength, List.drop_left' hlength]
  exact ⟨hexNumber_hexPadded width n, rfl⟩

/-! ## One place -/

/-- A place that a text can have. -/
def Rune.Occurs (r : Rune) : Prop := ∃ a s, r = (firstRune a s).1

theorem Rune.occurs_of_mem {r : Rune} {s : Bytes} (h : r ∈ runes s) : r.Occurs := by
  obtain ⟨before, after, happend⟩ := List.append_of_mem h
  obtain ⟨a, s', hr, -⟩ := runesAfter_eq_append happend
  exact ⟨a, s', hr⟩

/-- The place with the number that two digits give: an ASCII character or a stray byte. -/
def placeOf (n : Nat) : Rune := if n < 0x80 then .char (Char.ofNat n) else .stray (UInt8.ofNat n)

/-- The character that a letter behind a backslash stands for. -/
def letterChar (b : UInt8) : Char :=
  if b = 'a' then '\x07'
  else if b = 'b' then '\x08'
  else if b = 'f' then '\x0c'
  else if b = 'n' then '\n'
  else if b = 'r' then '\r'
  else if b = 't' then '\t'
  else if b = 'v' then '\x0b'
  else asciiChar b

/-- Reads the rest of an escape behind its backslash. -/
def unescape? : Bytes → Option (Rune × Bytes)
  | [] => none
  | e :: s =>
    if e = 'x' then some (placeOf (hexNumber (s.take 2)), s.drop 2)
    else if e = 'u' then some (.char (Char.ofNat (hexNumber (s.take 4))), s.drop 4)
    else if e = 'U' then some (.char (Char.ofNat (hexNumber (s.take 8))), s.drop 8)
    else some (.char (letterChar e), s)

theorem unescape?_two (s : Bytes) :
    unescape? (0x78 :: s) = some (placeOf (hexNumber (s.take 2)), s.drop 2) := rfl

theorem unescape?_four (s : Bytes) :
    unescape? (0x75 :: s) = some (.char (Char.ofNat (hexNumber (s.take 4))), s.drop 4) := rfl

theorem unescape?_eight (s : Bytes) :
    unescape? (0x55 :: s) = some (.char (Char.ofNat (hexNumber (s.take 8))), s.drop 8) := rfl

/-- Reads one place of a quoted text. -/
def unquoteRune? : Bytes → Option (Rune × Bytes)
  | [] => none
  | b :: s =>
    if b = 0x5c then unescape? s else some ((firstRune b s).1, s.drop (firstRune b s).2)

/-- A character is read from its own bytes. -/
theorem firstRune_take {a : UInt8} {s : Bytes} {ch : Char} {n : Nat}
    (h : firstRune a s = (.char ch, n)) : firstRune a (s.take n) = (.char ch, n) ∧ n ≤ s.length := by
  unfold firstRune at h ⊢
  by_cases ha : a < 0x80
  · rw [if_pos ha] at h ⊢
    cases h
    exact ⟨rfl, Nat.zero_le _⟩
  · rw [if_neg ha] at h ⊢
    match s with
    | [] => cases h
    | [b] =>
      cases h2 : char2 a b <;> simp only [h2] at h <;> cases h
      simp [h2]
    | [b, c] =>
      cases h2 : char2 a b <;> cases h3 : char3 a b c <;> simp only [h2, h3] at h <;> cases h <;>
        simp [h2, h3]
    | b :: c :: d :: s =>
      cases h2 : char2 a b <;> cases h3 : char3 a b c <;> cases h4 : char4 a b c d <;>
        simp only [h2, h3, h4] at h <;> cases h <;> simp [h2, h3, h4]

/-- A character in front of a text is its first place. -/
theorem unquoteRune?_char {a : UInt8} {s : Bytes} {c : Char} (hfirst : (firstRune a s).1 = .char c)
    (hc : c ≠ '\\') (t : Bytes) : unquoteRune? (String.utf8EncodeChar c ++ t) = some (.char c, t) := by
  obtain ⟨n, hn⟩ : ∃ n, firstRune a s = (.char c, n) := ⟨_, Prod.ext hfirst rfl⟩
  obtain ⟨htake, hlength⟩ := firstRune_take hn
  have hbytes := firstRune_bytes a s
  rw [hn] at hbytes
  have ha : a ≠ 0x5c := by
    rintro rfl
    rw [firstRune_ascii (by decide)] at hn
    cases hn
    exact hc rfl
  have hchar : String.utf8EncodeChar c = a :: s.take n := hbytes
  rw [hchar, List.cons_append, unquoteRune?, if_neg ha, firstRune_append htake]
  simp [hlength]

theorem unescape?_short {c e : Char} (h : shortEscape? c = some e) (t : Bytes) :
    unescape? ((e : UInt8) :: t) = some (.char c, t) := by
  have hc : Char.ofNat c.toNat = c := Char.ofNat_toNat c
  unfold shortEscape? at h
  split at h
  case h_8 => cases h
  all_goals
    cases h
    rename_i hn
    rw [← hc, hn]
    rfl

/-- What quoting makes of a character that is not printable is read back. -/
theorem unquoteRune?_escapeChar (c : Char) (t : Bytes) :
    unquoteRune? (escapeChar c ++ t) = some (.char c, t) := by
  have hc : Char.ofNat c.toNat = c := Char.ofNat_toNat c
  have hvalid : c.toNat < 0x110000 := by
    rcases c.valid with h | h
    · exact Nat.lt_trans h (by decide)
    · exact h.2
  unfold escapeChar
  cases hshort : shortEscape? c with
  | some e => exact unescape?_short hshort t
  | none =>
    dsimp only
    split_ifs with hascii hshortest
    · obtain ⟨hn, ht⟩ := hexPadded_append (by decide : 0 < 2) (by omega : c.toNat < 16 ^ 2) t
      show unescape? (0x78 :: (hexPadded 2 c.toNat ++ t)) = _
      rw [unescape?_two, hn, ht, placeOf, if_pos hascii, hc]
    · obtain ⟨hn, ht⟩ := hexPadded_append (by decide : 0 < 4) (by omega : c.toNat < 16 ^ 4) t
      show unescape? (0x75 :: (hexPadded 4 c.toNat ++ t)) = _
      rw [unescape?_four, hn, ht, hc]
    · obtain ⟨hn, ht⟩ := hexPadded_append (by decide : 0 < 8) (by omega : c.toNat < 16 ^ 8) t
      show unescape? (0x55 :: (hexPadded 8 c.toNat ++ t)) = _
      rw [unescape?_eight, hn, ht, hc]

theorem unquoteRune?_stray {b : UInt8} (hb : 0x80 ≤ b) (t : Bytes) :
    unquoteRune? (quoteRune (.stray b) ++ t) = some (.stray b, t) := by
  have hlow : 0x80 ≤ b.toNat := UInt8.le_iff_toNat_le.mp hb
  have hhigh := b.toNat_lt
  obtain ⟨hn, ht⟩ := hexPadded_append (by decide : 0 < 2) (by omega : b.toNat < 16 ^ 2) t
  show unescape? (0x78 :: (hexPadded 2 b.toNat ++ t)) = _
  rw [unescape?_two, hn, ht, placeOf, if_neg (by omega), UInt8.ofNat_toNat]

/-- What quoting makes of a place tells which place it was. -/
theorem unquoteRune?_quoteRune {r : Rune} (hr : r.Occurs) (t : Bytes) :
    unquoteRune? (quoteRune r ++ t) = some (r, t) := by
  obtain ⟨a, s, hfirst⟩ := hr
  cases r with
  | stray b =>
    have hbytes := firstRune_bytes a s
    rw [← hfirst] at hbytes
    obtain ⟨rfl, -⟩ := List.cons.inj hbytes
    refine unquoteRune?_stray ?_ t
    rcases firstRune_cases b s with ⟨-, hchar⟩ | ⟨-, hhigh⟩
    · rw [hchar] at hfirst
      cases hfirst
    · rw [← hfirst] at hhigh
      exact hhigh b List.mem_cons_self
  | char c =>
    simp only [quoteRune]
    split_ifs with hquoted hprintable
    · simp only [Bool.or_eq_true, decide_eq_true_eq] at hquoted
      rcases hquoted with rfl | rfl <;> rfl
    · simp only [Bool.or_eq_true, decide_eq_true_eq, not_or] at hquoted
      exact unquoteRune?_char hfirst.symm hquoted.2 t
    · exact unquoteRune?_escapeChar c t

/-! ## Texts -/

theorem flatMap_quoteRune_inj {rs rs' : List Rune} (hrs : ∀ r ∈ rs, r.Occurs)
    (hrs' : ∀ r ∈ rs', r.Occurs) (h : rs.flatMap quoteRune = rs'.flatMap quoteRune) : rs = rs' := by
  -- Reading back the first place of one list reads that of the other.
  induction rs generalizing rs' with
  | nil =>
    cases rs' with
    | nil => rfl
    | cons r' rs' =>
      have hread := unquoteRune?_quoteRune (hrs' r' List.mem_cons_self) (rs'.flatMap quoteRune)
      rw [← List.flatMap_cons, ← h] at hread
      cases hread
  | cons r rs ih =>
    have hread := unquoteRune?_quoteRune (hrs r List.mem_cons_self) (rs.flatMap quoteRune)
    rw [← List.flatMap_cons, h] at hread
    cases rs' with
    | nil => cases hread
    | cons r' rs' =>
      rw [List.forall_mem_cons] at hrs hrs'
      rw [List.flatMap_cons, unquoteRune?_quoteRune hrs'.1] at hread
      obtain ⟨rfl, hrest⟩ := Prod.mk.inj (Option.some.inj hread)
      rw [ih hrs.2 hrs'.2 hrest.symm]

/-- Texts that look the same in quotes are the same. -/
theorem quote_inj {s t : Bytes} : quote s = quote t ↔ s = t := by
  refine ⟨fun h => ?_, fun h => h ▸ rfl⟩
  have hbody : quoteBody s = quoteBody t := List.append_cancel_right (List.cons.inj h).2
  have hrunes : runes s = runes t := flatMap_quoteRune_inj (fun _ => Rune.occurs_of_mem)
    (fun _ => Rune.occurs_of_mem) hbody
  have hs : encodeRunes (runes s) = s := encodeRunes_runesAfter 0 s
  rw [← hs, hrunes]
  exact encodeRunes_runesAfter 0 t

end Golden
