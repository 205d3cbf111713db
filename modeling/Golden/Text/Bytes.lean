/-!
# Byte strings

Every text of the harness is a list of bytes: file contents, paths, arguments and messages need not
be valid UTF-8, lengths count bytes, and texts are ordered bytewise. String literals enter through
their UTF-8 encoding.

The operations here never look inside a character. `cut` and `splitOn` divide at a separator byte
and lose nothing else (`cut_eq`, `join_splitOn`).
-/

namespace Golden

/-- A text as the list of its bytes. -/
abbrev Bytes := List UInt8

/-- The UTF-8 bytes of a string. -/
def utf8 (s : String) : Bytes := s.toList.flatMap String.utf8EncodeChar

instance utf8Bytes : Coe String Bytes := ⟨utf8⟩

/-- An ASCII character stands for its byte. -/
instance asciiByte : Coe Char UInt8 := ⟨Char.toUInt8⟩

namespace Bytes

/-- Does `p` start the text? -/
def startsWith (p s : Bytes) : Bool := p.isPrefixOf s

/-- Does `p` end the text? -/
def endsWith (p s : Bytes) : Bool := p.isSuffixOf s

/-- Does `p` occur somewhere in the text? -/
def occursIn (p : Bytes) : Bytes → Bool
  | [] => p.isEmpty
  | b :: s => p.isPrefixOf (b :: s) || occursIn p s

/-- Bytewise order: a text comes before its extensions. -/
def le (a b : Bytes) : Bool := decide (a ≤ b)

theorem le_refl (a : Bytes) : le a a = true := decide_eq_true (List.le_refl a)

theorem le_total (a b : Bytes) : (le a b || le b a) = true := by
  rw [le, le, ← Bool.decide_or]
  exact decide_eq_true (List.le_total a b)

theorem le_trans (a b c : Bytes) (hab : le a b = true) (hbc : le b c = true) : le a c = true :=
  decide_eq_true (List.le_trans (of_decide_eq_true hab) (of_decide_eq_true hbc))

theorem le_antisymm {a b : Bytes} (hab : le a b = true) (hba : le b a = true) : a = b :=
  List.le_antisymm (of_decide_eq_true hab) (of_decide_eq_true hba)

/-- Sorts texts bytewise. -/
def sort (xs : List Bytes) : List Bytes := xs.mergeSort le

/-- Texts in ascending order need no sorting. -/
theorem sort_of_pairwise {xs : List Bytes} (h : xs.Pairwise (· < ·)) : sort xs = xs :=
  List.mergeSort_of_pairwise (h.imp fun hlt => decide_eq_true (List.le_of_lt hlt))

/-! ## Dividing at a byte -/

/-- The part before the first separator and, if there is a separator, the part after it. -/
def cut (sep : UInt8) : Bytes → Bytes × Option Bytes
  | [] => ([], none)
  | b :: s =>
    if b = sep then ([], some s)
    else (b :: (cut sep s).1, (cut sep s).2)

/-- `cut` loses only the separator. -/
theorem cut_eq (sep : UInt8) (s : Bytes) :
    s = (cut sep s).1 ++ (match (cut sep s).2 with | none => [] | some t => sep :: t) := by
  induction s with
  | nil => rfl
  | cons b s ih =>
    by_cases h : b = sep
    · simp [cut, h]
    · simp only [cut, h, if_false, List.cons_append]
      rw [← ih]

theorem cut_of_not_mem {sep : UInt8} {s : Bytes} (h : sep ∉ s) : cut sep s = (s, none) := by
  induction s with
  | nil => rfl
  | cons b s ih =>
    simp only [List.mem_cons, not_or] at h
    rw [cut, if_neg (Ne.symm h.1), ih h.2]

theorem cut_append_cons {sep : UInt8} {s : Bytes} (h : sep ∉ s) (t : Bytes) :
    cut sep (s ++ sep :: t) = (s, some t) := by
  induction s with
  | nil => simp [cut]
  | cons b s ih =>
    simp only [List.mem_cons, not_or] at h
    rw [List.cons_append, cut, if_neg (Ne.symm h.1), ih h.2]

theorem eq_of_cut_none {sep : UInt8} {s name : Bytes} (h : cut sep s = (name, none)) :
    s = name := by
  have hs := cut_eq sep s
  rwa [h, List.append_nil] at hs

theorem eq_of_cut_some {sep : UInt8} {s name v : Bytes} (h : cut sep s = (name, some v)) :
    s = name ++ sep :: v := by
  have hs := cut_eq sep s
  rwa [h] at hs

/-- The pieces between separators: always one more than there are separators. -/
def splitOn (sep : UInt8) : Bytes → List Bytes
  | [] => [[]]
  | b :: s =>
    if b = sep then [] :: splitOn sep s
    else match splitOn sep s with
      | [] => [[b]]
      | p :: ps => (b :: p) :: ps

/-- Joins texts with a separator between them. -/
def join (sep : Bytes) : List Bytes → Bytes
  | [] => []
  | [p] => p
  | p :: q :: ps => p ++ sep ++ join sep (q :: ps)

theorem splitOn_ne_nil (sep : UInt8) (s : Bytes) : splitOn sep s ≠ [] := by
  cases s with
  | nil => simp [splitOn]
  | cons b s =>
    unfold splitOn
    split
    · simp
    · split <;> simp

/-- Joining the pieces with the separator gives the text back. -/
theorem join_splitOn (sep : UInt8) (s : Bytes) : join [sep] (splitOn sep s) = s := by
  induction s with
  | nil => rfl
  | cons b s ih =>
    have hne := splitOn_ne_nil sep s
    cases hs : splitOn sep s with
    | nil => exact absurd hs hne
    | cons p ps =>
      rw [hs] at ih
      by_cases h : b = sep
      · subst h
        simp only [splitOn, if_true, hs, join, List.nil_append]
        simp [ih]
      · simp only [splitOn, h, if_false, hs]
        cases ps with
        | nil => simpa [join] using ih
        | cons q qs => simpa [join] using ih

/-- Drops the trailing bytes that satisfy `p`. -/
def dropRightWhile (p : UInt8 → Bool) (s : Bytes) : Bytes := (s.reverse.dropWhile p).reverse

/-- Repeats a byte. -/
def replicate (n : Nat) (b : UInt8) : Bytes := List.replicate n b

/-- The index of the last occurrence of a byte. -/
def lastIndexOf (x : UInt8) : Bytes → Option Nat
  | [] => none
  | b :: s =>
    match lastIndexOf x s with
    | some i => some (i + 1)
    | none => if b = x then some 0 else none

theorem lastIndexOf_of_not_mem {x : UInt8} {s : Bytes} (h : x ∉ s) : lastIndexOf x s = none := by
  induction s with
  | nil => rfl
  | cons b s ih =>
    have hs : x ∉ s := fun hmem => h (List.mem_cons_of_mem b hmem)
    have hb : b ≠ x := fun heq => h (heq ▸ List.mem_cons_self)
    rw [lastIndexOf, ih hs]
    exact if_neg hb

theorem lastIndexOf_append_cons {x : UInt8} {s t : Bytes} (h : x ∉ t) :
    lastIndexOf x (s ++ x :: t) = some s.length := by
  induction s with
  | nil =>
    rw [List.nil_append, lastIndexOf, lastIndexOf_of_not_mem h]
    exact if_pos rfl
  | cons b s ih =>
    rw [List.cons_append, lastIndexOf, ih]
    rfl

/-- What stands before and behind the last occurrence of a byte. -/
theorem eq_append_cons_of_lastIndexOf {x : UInt8} {s : Bytes} {i : Nat} (h : lastIndexOf x s = some i) :
    ∃ before after, s = before ++ x :: after ∧ x ∉ after ∧ before.length = i := by
  have hmem : x ∈ s := by
    refine Decidable.byContradiction fun hnot => ?_
    rw [lastIndexOf_of_not_mem hnot] at h
    cases h
  obtain ⟨after, before, hreverse, hafter⟩ := List.eq_append_cons_of_mem (List.mem_reverse.mpr hmem)
  have hs : s = before.reverse ++ x :: after.reverse := by
    rw [← List.reverse_reverse s, hreverse, List.reverse_append, List.reverse_cons, List.append_assoc]
    rfl
  have hafter' : x ∉ after.reverse := mt List.mem_reverse.mp hafter
  rw [hs, lastIndexOf_append_cons hafter'] at h
  exact ⟨before.reverse, after.reverse, hs, hafter', Option.some.inj h⟩

end Bytes

/-- Lower-case form of an ASCII letter, any other byte unchanged. -/
def lowerAscii (b : UInt8) : UInt8 := if 0x41 ≤ b && b ≤ 0x5a then b + 0x20 else b

/-- Upper-case form of an ASCII letter, any other byte unchanged. -/
def upperAscii (b : UInt8) : UInt8 := if 0x61 ≤ b && b ≤ 0x7a then b - 0x20 else b

/-- An ASCII decimal digit. -/
def isDigit (b : UInt8) : Bool := 0x30 ≤ b && b ≤ 0x39

/-- The value of a hexadecimal digit of either case. -/
def hexValue (b : UInt8) : Option Nat :=
  if isDigit b then some (b.toNat - 0x30)
  else if 0x61 ≤ b && b ≤ 0x66 then some (b.toNat - 0x57)
  else if 0x41 ≤ b && b ≤ 0x46 then some (b.toNat - 0x37)
  else none

end Golden
