import Golden.Text.Bytes

/-!
# Reading a text as UTF-8

A text that should be UTF-8 is read character by character. A byte that does not begin a
well-formed character stands for itself and takes up one place, so reading is total and nothing is
lost.
-/

namespace Golden

/-- One place of a text: a well-formed character, or a byte that begins none. -/
inductive Rune where
  | char (c : Char)
  | stray (b : UInt8)
deriving DecidableEq, Repr

namespace Rune

/-- The bytes the place takes up. -/
def bytes : Rune → Bytes
  | .char c => String.utf8EncodeChar c
  | .stray b => [b]

/-- The character shown for the place: a stray byte shows as the replacement character. -/
def shown : Rune → Char
  | .char c => c
  | .stray _ => '\ufffd'

end Rune

/-- A byte that continues a character. -/
def isContinuation (b : UInt8) : Bool := 0x80 ≤ b && b ≤ 0xbf

/-- The low bits a byte adds to a code point. -/
def continuationBits (b : UInt8) : Nat := b.toNat % 0x40

/-- The character of a well-formed two-byte sequence. -/
def char2 (a b : UInt8) : Option Char :=
  if 0xc2 ≤ a && a ≤ 0xdf && isContinuation b then
    some (Char.ofNat (a.toNat % 0x20 * 0x40 + continuationBits b))
  else none

/-- The character of a well-formed three-byte sequence: shortest form, no surrogate. -/
def char3 (a b c : UInt8) : Option Char :=
  let n := a.toNat % 0x10 * 0x1000 + continuationBits b * 0x40 + continuationBits c
  if 0xe0 ≤ a && a ≤ 0xef && isContinuation b && isContinuation c
      && 0x800 ≤ n && !(0xd800 ≤ n && n ≤ 0xdfff) then
    some (Char.ofNat n)
  else none

/-- The character of a well-formed four-byte sequence: shortest form, at most `10FFFF`. -/
def char4 (a b c d : UInt8) : Option Char :=
  let n := a.toNat % 8 * 0x40000 + continuationBits b * 0x1000 + continuationBits c * 0x40
    + continuationBits d
  if 0xf0 ≤ a && a ≤ 0xf4 && isContinuation b && isContinuation c && isContinuation d
      && 0x10000 ≤ n && n ≤ 0x10ffff then
    some (Char.ofNat n)
  else none

/-- The place that the byte `a` begins when `s` follows it, and how many bytes of `s` belong to it. -/
def firstRune (a : UInt8) (s : Bytes) : Rune × Nat :=
  if a < 0x80 then (.char (Char.ofNat a.toNat), 0)
  else match s with
    | [] => (.stray a, 0)
    | b :: s₁ =>
      match char2 a b with
      | some ch => (.char ch, 1)
      | none =>
        match s₁ with
        | [] => (.stray a, 0)
        | c :: s₂ =>
          match char3 a b c with
          | some ch => (.char ch, 2)
          | none =>
            match s₂ with
            | [] => (.stray a, 0)
            | d :: _ =>
              match char4 a b c d with
              | some ch => (.char ch, 3)
              | none => (.stray a, 0)

/-- The places of a text once `skip` more bytes have been passed over. -/
def runesAfter : Nat → Bytes → List Rune
  | _, [] => []
  | skip + 1, _ :: s => runesAfter skip s
  | 0, a :: s => (firstRune a s).1 :: runesAfter (firstRune a s).2 s

/-- The places of a text, from left to right. -/
def runes (s : Bytes) : List Rune := runesAfter 0 s

/-- Is every place a well-formed character? -/
def isUtf8 (s : Bytes) : Bool :=
  (runes s).all fun
    | .char _ => true
    | .stray _ => false

/-- The number of places. -/
def runeCount (s : Bytes) : Nat := (runes s).length

end Golden
