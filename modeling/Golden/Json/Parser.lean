import Golden.Json.Basic
import Golden.Text.Rune

/-!
# Reading JSON

`Json.parse?` accepts exactly one value with blanks around it. Bytes of a string that are not UTF-8,
and escaped halves of surrogate pairs that stand alone, become the replacement character. Values
nested more than `maxDepth` deep are refused.

Each reader takes the text and returns what it read with the rest. The readers that call each other
carry a bound on the number of calls; every call but the first follows a byte that was read, so the
length of the text bounds them.
-/

namespace Golden.Json

/-- A blank between tokens. -/
def isBlankByte (b : UInt8) : Bool := b == 0x20 || b == 0x09 || b == 0x0a || b == 0x0d

/-- Skips blanks. -/
def skipBlanks (s : Bytes) : Bytes := s.dropWhile isBlankByte

/-! ## Strings -/

/-- The code unit of four hexadecimal digits. -/
def hex4? : Bytes → Option Nat
  | a :: b :: c :: d :: _ => do
    let a ← hexValue a
    let b ← hexValue b
    let c ← hexValue c
    let d ← hexValue d
    return ((a * 16 + b) * 16 + c) * 16 + d
  | _ => none

/-- The replacement character. -/
def replacement : Bytes := utf8 "\ufffd"

/-- The low half that completes a surrogate pair, if an escape for one comes next. -/
def lowSurrogate? : Bytes → Option Nat
  | b :: u :: rest =>
    if b = '\\' && u = 'u' then
      match hex4? rest with
      | some n => if 0xdc00 ≤ n && n ≤ 0xdfff then some n else none
      | none => none
    else none
  | _ => none

/-- The bytes that an escaped code unit stands for, given what follows it, and how many of the
following bytes belong to it. -/
def unescapeUnit (n : Nat) (rest : Bytes) : Bytes × Nat :=
  if 0xd800 ≤ n && n ≤ 0xdbff then
    match lowSurrogate? rest with
    | some low =>
      (String.utf8EncodeChar (Char.ofNat (0x10000 + (n - 0xd800) * 0x400 + (low - 0xdc00))), 6)
    | none => (replacement, 0)
  else if 0xdc00 ≤ n && n ≤ 0xdfff then (replacement, 0)
  else (String.utf8EncodeChar (Char.ofNat n), 0)

/-- The byte that a one-letter escape stands for. -/
def shortEscape? (b : UInt8) : Option UInt8 :=
  if b = '"' || b = '\\' || b = '/' then some b
  else if b = 'b' then some 0x08
  else if b = 'f' then some 0x0c
  else if b = 'n' then some 0x0a
  else if b = 'r' then some 0x0d
  else if b = 't' then some 0x09
  else none

/-- The rest of a string after its opening quote, escapes undone; `skip` bytes are already used. -/
def stringBody : Nat → Bytes → Option (Bytes × Bytes)
  | _, [] => none
  | skip + 1, _ :: s => stringBody skip s
  | 0, b :: s =>
    if b = '"' then some ([], s)
    else if b < 0x20 then none
    else if b = '\\' then
      match s with
      | [] => none
      | e :: rest =>
        if e = 'u' then
          match hex4? rest with
          | none => none
          | some n =>
            let (bytes, more) := unescapeUnit n (rest.drop 4)
            (stringBody (5 + more) s).map fun (t, r) => (bytes ++ t, r)
        else
          match shortEscape? e with
          | none => none
          | some c => (stringBody 1 s).map fun (t, r) => (c :: t, r)
    else
      match firstRune b s with
      | (.char c, more) => (stringBody more s).map fun (t, r) => (String.utf8EncodeChar c ++ t, r)
      | (.stray _, _) => (stringBody 0 s).map fun (t, r) => (replacement ++ t, r)

/-! ## Numbers -/

/-- One or more digits. -/
def digits1? (s : Bytes) : Option (Bytes × Bytes) :=
  if (s.takeWhile isDigit).isEmpty then none else some (s.takeWhile isDigit, s.dropWhile isDigit)

/-- The whole part of a number: a zero, or digits that do not start with one. -/
def wholePart? : Bytes → Option (Bytes × Bytes)
  | [] => none
  | b :: s => if b = '0' then some ([b], s) else digits1? (b :: s)

/-- The fraction of a number, empty if there is none. -/
def fraction? : Bytes → Option (Bytes × Bytes)
  | b :: s =>
    if b = '.' then (digits1? s).map fun (d, r) => (b :: d, r) else some ([], b :: s)
  | [] => some ([], [])

/-- The exponent of a number, empty if there is none. -/
def exponent? : Bytes → Option (Bytes × Bytes)
  | e :: s =>
    if e = 'e' || e = 'E' then
      match s with
      | sign :: s₁ =>
        if sign = '+' || sign = '-' then (digits1? s₁).map fun (d, r) => (e :: sign :: d, r)
        else (digits1? s).map fun (d, r) => (e :: d, r)
      | [] => none
    else some ([], e :: s)
  | [] => some ([], [])

/-- A number without its sign. -/
def unsigned? (s : Bytes) : Option (Bytes × Bytes) := do
  let (w, s₁) ← wholePart? s
  let (f, s₂) ← fraction? s₁
  let (e, s₃) ← exponent? s₂
  return (w ++ f ++ e, s₃)

/-- A number. -/
def number? : Bytes → Option (Bytes × Bytes)
  | b :: s =>
    if b = '-' then (unsigned? s).map fun (d, r) => (b :: d, r) else unsigned? (b :: s)
  | [] => none

/-! ## Values -/

/-- Reads a fixed word. -/
def word? (w : Bytes) (v : Json) (s : Bytes) : Option (Json × Bytes) :=
  if Bytes.startsWith w s then some (v, s.drop w.length) else none

mutual

/-- Reads a value that starts here. -/
def value? : Nat → Nat → Bytes → Option (Json × Bytes)
  | 0, _, _ => none
  | _, _, [] => none
  | fuel + 1, depth, b :: s =>
    if b = '"' then (stringBody 0 s).map fun (t, r) => (.string t, r)
    else if b = 't' then word? "true" (.bool true) (b :: s)
    else if b = 'f' then word? "false" (.bool false) (b :: s)
    else if b = 'n' then word? "null" .null (b :: s)
    else if b = '[' then
      if depth ≥ maxDepth then none
      else
        match skipBlanks s with
        | [] => none
        | c :: r =>
          if c = ']' then some (.array [], r)
          else (items? fuel (depth + 1) (c :: r)).map fun (vs, r) => (.array vs, r)
    else if b = '\x7b' then
      if depth ≥ maxDepth then none
      else
        match skipBlanks s with
        | [] => none
        | c :: r =>
          if c = '\x7d' then some (.object [], r)
          else (members? fuel (depth + 1) (c :: r)).map fun (ms, r) => (.object ms, r)
    else (number? (b :: s)).map fun (t, r) => (.number t, r)

/-- Reads the items of an array up to its closing bracket. -/
def items? : Nat → Nat → Bytes → Option (List Json × Bytes)
  | 0, _, _ => none
  | fuel + 1, depth, s =>
    match value? fuel depth s with
    | none => none
    | some (v, s₁) =>
      match skipBlanks s₁ with
      | [] => none
      | c :: r =>
        if c = ']' then some ([v], r)
        else if c = ',' then (items? fuel depth (skipBlanks r)).map fun (vs, r) => (v :: vs, r)
        else none

/-- Reads the members of an object up to its closing brace. -/
def members? : Nat → Nat → Bytes → Option (List (Bytes × Json) × Bytes)
  | 0, _, _ => none
  | _, _, [] => none
  | fuel + 1, depth, q :: s =>
    if q = '"' then
      match stringBody 0 s with
      | none => none
      | some (key, s₁) =>
        match skipBlanks s₁ with
        | [] => none
        | c :: s₂ =>
          if c = ':' then
            match value? fuel depth (skipBlanks s₂) with
            | none => none
            | some (v, s₃) =>
              match skipBlanks s₃ with
              | [] => none
              | d :: r =>
                if d = '\x7d' then some ([(key, v)], r)
                else if d = ',' then
                  (members? fuel depth (skipBlanks r)).map fun (ms, r) => ((key, v) :: ms, r)
                else none
          else none
    else none

end

/-- Reads a document: one value and nothing else but blanks. -/
def parse? (s : Bytes) : Option Json :=
  match value? (2 * s.length + 2) 0 (skipBlanks s) with
  | some (v, r) => if (skipBlanks r).isEmpty then some v else none
  | none => none

end Golden.Json
