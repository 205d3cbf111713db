import Golden.Text.Rune

/-!
# The characters of a YAML stream

A stream is UTF-8 or, if it starts with the byte order mark of one, UTF-16. It is decoded window by
window: a malformed sequence or a forbidden control character spoils the window it stands in, and
whoever asks for a character of that window fails. What comes before the window can still be read,
so a fault far behind the first document does no harm to it.
-/

namespace Golden.Yaml

/-- A decoded window of the stream. -/
inductive Chunk where
  | chars (cs : List Char)
  | broken
deriving DecidableEq, Repr

/-- How characters are encoded. -/
inductive Encoding where
  | utf8
  | utf16 (bigEndian : Bool)
deriving DecidableEq, Repr

/-- Bytes in a window. -/
def windowSize : Nat := 512

/-- May the code point stand in a stream? -/
def isAllowed (n : Nat) : Bool :=
  n == 0x09 || n == 0x0a || n == 0x0d || (0x20 ≤ n && n ≤ 0x7e) || n == 0x85
    || (0xa0 ≤ n && n ≤ 0xd7ff) || (0xe000 ≤ n && n ≤ 0xfffd) || (0x10000 ≤ n && n ≤ 0x10ffff)

/-- What the front of the bytes holds. -/
inductive Front where
  | char (c : Char) (width : Nat)
  /-- The window ends inside a character. -/
  | cutOff
  | broken
deriving DecidableEq, Repr

/-- An allowed code point of some width, or a broken front. -/
def frontOf (n width : Nat) : Front :=
  if isAllowed n then .char (Char.ofNat n) width else .broken

/-- The number of bytes that a leading byte announces. -/
def announcedWidth (a : UInt8) : Option Nat :=
  if a < 0x80 then some 1
  else if 0xc0 ≤ a && a ≤ 0xdf then some 2
  else if 0xe0 ≤ a && a ≤ 0xef then some 3
  else if 0xf0 ≤ a && a ≤ 0xf7 then some 4
  else none

/-- The front of UTF-8 bytes. -/
def frontUtf8 (a : UInt8) (s : Bytes) : Front :=
  match announcedWidth a with
  | none => .broken
  | some width =>
    if s.length + 1 < width then .cutOff
    else
      match firstRune a s with
      | (.char c, _) => frontOf c.toNat width
      | (.stray _, _) => .broken

/-- A UTF-16 code unit. -/
def codeUnit (bigEndian : Bool) (a b : UInt8) : Nat :=
  if bigEndian then a.toNat * 0x100 + b.toNat else b.toNat * 0x100 + a.toNat

/-- The front of UTF-16 bytes. -/
def frontUtf16 (bigEndian : Bool) (s : Bytes) : Front :=
  match s with
  | a :: b :: rest =>
    let n := codeUnit bigEndian a b
    if 0xdc00 ≤ n && n ≤ 0xdfff then .broken
    else if 0xd800 ≤ n && n ≤ 0xdbff then
      match rest with
      | c :: d :: _ =>
        let m := codeUnit bigEndian c d
        if 0xdc00 ≤ m && m ≤ 0xdfff then frontOf (0x10000 + (n - 0xd800) * 0x400 + (m - 0xdc00)) 4
        else .broken
      | _ => .cutOff
    else frontOf n 2
  | _ => .cutOff

/-- The front of non-empty bytes. -/
def front (e : Encoding) (s : Bytes) : Front :=
  match e, s with
  | .utf8, a :: rest => frontUtf8 a rest
  | .utf8, [] => .cutOff
  | .utf16 bigEndian, s => frontUtf16 bigEndian s

/-- The characters of a window and the bytes of a character that it cuts off, or nothing if the
window is broken. -/
def decodeWindow (e : Encoding) : Nat → Bytes → Option (List Char × Bytes)
  | _, [] => some ([], [])
  | 0, s => some ([], s)
  | fuel + 1, s =>
    match front e s with
    | .broken => none
    | .cutOff => some ([], s)
    | .char c width => (decodeWindow e fuel (s.drop width)).map fun (cs, rest) => (c :: cs, rest)

/-- The windows of a stream; the first has `size` bytes. A character that a window cuts off belongs
to the next one. -/
def windows (e : Encoding) : Nat → Nat → Bytes → List Chunk
  | _, _, [] => []
  | 0, _, _ => []
  | fuel + 1, size, s =>
    match decodeWindow e size (s.take size) with
    | none => [.broken]
    | some (cs, rest) =>
      if (s.drop size).isEmpty then
        if rest.isEmpty then [.chars cs] else [.chars cs, .broken]
      else .chars cs :: windows e fuel windowSize (rest ++ s.drop size)

/-- The encoding of a stream and the length of the mark that announces it. -/
def detectEncoding : Bytes → Encoding × Nat
  | 0xff :: 0xfe :: _ => (.utf16 false, 2)
  | 0xfe :: 0xff :: _ => (.utf16 true, 2)
  | 0xef :: 0xbb :: 0xbf :: _ => (.utf8, 3)
  | _ => (.utf8, 0)

/-- The windows of a stream. -/
def chunks (data : Bytes) : List Chunk :=
  let (e, mark) := detectEncoding data
  windows e (data.length + 1) (windowSize - mark) (data.drop mark)

end Golden.Yaml
