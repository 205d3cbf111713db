import Golden.Text.Quote

/-!
# Formats

A format is a text with directives. A directive is a percent sign, flags, a width, a precision and a
verb; it stands for an argument, by default the next one. Width and precision may be given by an
argument too (`*`), and an argument may be chosen by its number in brackets.

Nothing is refused: a directive that cannot be carried out is replaced by a note that begins with
`%!`, and a final note lists the arguments that were not used.
-/

namespace Golden

/-- An argument of a format. -/
inductive FormatArg where
  | int (i : Int)
  | text (s : Bytes)
deriving DecidableEq, Repr

namespace Format

/-- How an argument is laid out. -/
structure Style where
  /-- The alternate form. -/
  sharp : Bool := false
  /-- Fill up with zeros on the left. -/
  zero : Bool := false
  /-- Always show a sign, or use ASCII only. -/
  plus : Bool := false
  /-- Fill up on the right. -/
  minus : Bool := false
  /-- Leave room for a sign, or put blanks between bytes. -/
  space : Bool := false
  /-- Literals instead of plain texts. -/
  asLiteral : Bool := false
  width : Option Nat := none
  precision : Option Nat := none
deriving DecidableEq, Repr

namespace Style

/-- The byte that a text is filled up with. -/
def fillByte (st : Style) : UInt8 := if st.zero && !st.minus then 0x30 else 0x20

/-- Fills a text up to the width, which counts characters. -/
def pad (st : Style) (s : Bytes) : Bytes :=
  let fill := List.replicate (st.width.getD 0 - runeCount s) st.fillByte
  if st.minus then s ++ fill else fill ++ s

/-- Fills a text up with blanks. -/
def padBlank (st : Style) (s : Bytes) : Bytes := { st with zero := false }.pad s

/-- The characters of a text that the precision leaves. -/
def truncate (st : Style) (s : Bytes) : Bytes :=
  match st.precision with
  | none => s
  | some n => ((runes s).take n).flatMap Rune.bytes

end Style

/-! ## Integers -/

/-- Digits in upper case. -/
def upperDigits (base n : Nat) : Bytes := (digits base n).map upperAscii

/-- The least number of digits. -/
def leastDigits (st : Style) (negative : Bool) : Nat :=
  match st.precision with
  | some n => n
  | none =>
    if st.zero && !st.minus then
      st.width.getD 0 - (if negative || st.plus || st.space then 1 else 0)
    else 0

/-- The mark of the base in the alternate form. -/
def baseMark (base : Nat) (upper : Bool) (ds : Bytes) : Bytes :=
  match base with
  | 2 => "0b"
  | 8 => if ds.head? == some 0x30 then [] else "0"
  | 16 => if upper then "0X" else "0x"
  | _ => []

/-- An integer in a base. -/
def integer (st : Style) (base : Nat) (upper octalMark : Bool) (i : Int) : Bytes :=
  if st.precision = some 0 && i = 0 then st.padBlank []
  else
    let negative := decide (i < 0)
    let ds := if upper then upperDigits base i.natAbs else digits base i.natAbs
    let ds := padLeft (leastDigits st negative) 0x30 ds
    let ds := if st.sharp then baseMark base upper ds ++ ds else ds
    let ds := if octalMark then "0o" ++ ds else ds
    st.padBlank ((if negative then "-" else if st.plus then "+" else if st.space then " " else "") ++ ds)

/-- The replacement character. -/
def replacementChar : Char := '\ufffd'

/-- The character with a code point; other numbers have the replacement character. -/
def charOf (i : Int) : Char :=
  if i < 0 then replacementChar
  else if h : i.toNat.isValidChar then Char.ofNatAux i.toNat h
  else replacementChar

/-- An escape for a character outside ASCII. -/
def escapeWide (c : Char) : Bytes :=
  if c.toNat < 0x10000 then "\\u" ++ hexPadded 4 c.toNat else "\\U" ++ hexPadded 8 c.toNat

/-- The byte of the single quote. -/
def singleQuote : UInt8 := 0x27

/-- A character in single quotes. -/
def quotedChar (ascii : Bool) (c : Char) : Bytes :=
  let body : Bytes :=
    if c.toNat = 0x27 || c = '\\' then [0x5c, c.toUInt8]
    else if ascii && c.toNat ≥ 0x80 then escapeWide c
    else if isPrintable c then String.utf8EncodeChar c
    else escapeChar c
  singleQuote :: body ++ [singleQuote]

/-- A code point: at least four digits, and in the alternate form the character behind them. -/
def codePoint (st : Style) (i : Int) : Bytes :=
  let n := if i < 0 then (i + 18446744073709551616).toNat else i.toNat
  let shown : Bytes :=
    if st.sharp && n.isValidChar && isPrintable (Char.ofNat n) then
      utf8 " " ++ singleQuote :: String.utf8EncodeChar (Char.ofNat n) ++ [singleQuote]
    else []
  st.padBlank ("U+" ++ padLeft (max 4 (st.precision.getD 0)) 0x30 (upperDigits 16 n) ++ shown)

/-! ## Texts -/

/-- Can the character stand in a raw literal? -/
def isRawPlace : Rune → Bool
  | .stray _ => false
  | .char c =>
    let n := c.toNat
    !((n < 0x20 && n != 0x09) || n == 0x60 || n == 0x7f || n == 0xfeff)

/-- One place of a text quoted in ASCII. -/
def quoteRuneAscii : Rune → Bytes
  | .char c => if c.toNat ≥ 0x80 then escapeWide c else quoteRune (.char c)
  | r => quoteRune r

/-- A text in quotes. -/
def quoted (st : Style) (s : Bytes) : Bytes :=
  let s := st.truncate s
  if st.sharp && (runes s).all isRawPlace then st.pad ((0x60 : UInt8) :: s ++ [0x60])
  else if st.plus then st.pad ((0x22 : UInt8) :: (runes s).flatMap quoteRuneAscii ++ [0x22])
  else st.pad (quote s)

/-- The bytes of a text in hexadecimal. -/
def hexText (st : Style) (upper : Bool) (s : Bytes) : Bytes :=
  let s := match st.precision with
    | some n => s.take n
    | none => s
  let byte (b : UInt8) : Bytes :=
    let ds := hexPadded 2 b.toNat
    if upper then ds.map upperAscii else ds
  let mark : Bytes := if st.sharp then (if upper then "0X" else "0x") else []
  if s.isEmpty then st.pad []
  else if st.space then st.pad (Bytes.join " " (s.map fun b => mark ++ byte b))
  else st.pad (mark ++ s.flatMap byte)

/-! ## Arguments -/

/-- The name of an argument's type. -/
def typeName : FormatArg → Bytes
  | .int _ => "int"
  | .text _ => "string"

/-- An argument in its natural form. -/
def natural (st : Style) : FormatArg → Bytes
  | .int i => integer st 10 false false i
  | .text s => if st.asLiteral then quoted st s else st.pad (st.truncate s)

/-- The note for a verb that does not suit its argument. -/
def badVerb (st : Style) (verb : Char) (a : FormatArg) : Bytes :=
  utf8 "%!" ++ String.utf8EncodeChar verb ++ "(" ++ typeName a ++ "=" ++ natural st a ++ ")"

/-- An integer under a verb. -/
def formatInt (st : Style) (verb : Char) (i : Int) : Bytes :=
  match verb with
  | 'd' => integer st 10 false false i
  | 'b' => integer st 2 false false i
  | 'o' => integer st 8 false false i
  | 'O' => integer st 8 false true i
  | 'x' => integer st 16 false false i
  | 'X' => integer st 16 true false i
  | 'c' => st.pad (String.utf8EncodeChar (charOf i))
  | 'q' => st.pad (quotedChar st.plus (charOf i))
  | 'U' => codePoint st i
  | _ => badVerb st verb (.int i)

/-- A text under a verb. -/
def formatText (st : Style) (verb : Char) (s : Bytes) : Bytes :=
  match verb with
  | 's' => st.pad (st.truncate s)
  | 'x' => hexText st false s
  | 'X' => hexText st true s
  | 'q' => quoted st s
  | _ => badVerb st verb (.text s)

/-- An argument under a verb. -/
def formatArg (st : Style) (verb : Char) (a : FormatArg) : Bytes :=
  let plain : Style := { st with asLiteral := st.sharp, sharp := false, plus := false }
  if verb = 'v' then natural plain a
  else if verb = 'w' then badVerb plain verb a
  else if verb = 'T' then st.pad (st.truncate (typeName a))
  else
    match a with
    | .int i => formatInt st verb i
    | .text s => formatText st verb s

/-! ## Directives -/

/-- Largest width and precision that an argument can give. -/
def maxStar : Nat := 1000000

/-- The state of a format's evaluation. -/
structure Scan where
  /-- What is left of the format. -/
  rest : Bytes
  /-- The number of the next argument. -/
  next : Nat := 0
  /-- Was an argument ever chosen by number? -/
  reordered : Bool := false
  /-- Are the argument numbers of this directive good? -/
  good : Bool := true
  /-- Did an argument number come just before? -/
  afterIndex : Bool := false
deriving Repr

/-- The number at the start of a text and the rest. An overlong number swallows everything. -/
def number (value : Nat) (seen : Bool) : Bytes → Option Nat × Bytes
  | [] => (if seen then some value else none, [])
  | b :: s =>
    if isDigit b then
      if value > maxStar then (none, []) else number (value * 10 + (b.toNat - 0x30)) true s
    else (if seen then some value else none, b :: s)

/-- The number in brackets at the start of a text, and how many bytes it takes up. -/
def bracketed (s : Bytes) : Option Nat × Nat :=
  if s.length < 3 then (none, 1)
  else
    match Bytes.cut ']' (s.drop 1) with
    | (_, none) => (none, 1)
    | (inner, some _) =>
      match number 0 false inner with
      | (some n, []) => (some n, inner.length + 2)
      | _ => (none, inner.length + 2)

/-- Reads the number of an argument, if one comes next. -/
def Scan.index (count : Nat) (s : Scan) : Scan :=
  if s.rest.head? != some 0x5b then { s with afterIndex := false }
  else
    let (n, size) := bracketed s.rest
    let s : Scan := { s with rest := s.rest.drop size, reordered := true, afterIndex := n.isSome }
    match n with
    | some (k + 1) => if k < count then { s with next := k } else { s with good := false }
    | _ => { s with good := false }

/-- Takes a width or precision from the arguments. -/
def Scan.star (args : List FormatArg) (s : Scan) : Option Int × Scan :=
  let s : Scan := { s with rest := s.rest.drop 1, afterIndex := false }
  match args[s.next]? with
  | none => (none, s)
  | some (.int i) => (if i.natAbs ≤ maxStar then some i else none, { s with next := s.next + 1 })
  | some (.text _) => (none, { s with next := s.next + 1 })

/-- Reads flags. -/
def flags (st : Style) : Bytes → Style × Bytes
  | [] => (st, [])
  | b :: s =>
    if b = '#' then flags { st with sharp := true } s
    else if b = '0' then flags { st with zero := true } s
    else if b = '+' then flags { st with plus := true } s
    else if b = '-' then flags { st with minus := true } s
    else if b = ' ' then flags { st with space := true } s
    else (st, b :: s)

/-- Reads the width, with a note if an argument gives a bad one. -/
def Scan.width (args : List FormatArg) (st : Style) (s : Scan) : Bytes × Style × Scan :=
  if s.rest.head? == some 0x2a then
    match s.star args with
    | (none, s) => ("%!(BADWIDTH)", st, s)
    | (some i, s) =>
      ([], { st with width := some i.natAbs, minus := st.minus || i < 0 }, s)
  else
    let (n, rest) := number 0 false s.rest
    ([], { st with width := n }, { s with rest := rest, good := s.good && !(s.afterIndex && n.isSome) })

/-- Reads the precision, with a note if an argument gives a bad one. -/
def Scan.precision (args : List FormatArg) (st : Style) (s : Scan) : Bytes × Style × Scan :=
  if s.rest.head? != some 0x2e then ([], st, s)
  else
    let s : Scan := { s with rest := s.rest.drop 1, good := s.good && !s.afterIndex }
    let s := s.index args.length
    if s.rest.head? == some 0x2a then
      match s.star args with
      | (some i, s) =>
        if i < 0 then ("%!(BADPREC)", st, s) else ([], { st with precision := some i.natAbs }, s)
      | (none, s) => ("%!(BADPREC)", st, s)
    else
      let (n, rest) := number 0 false s.rest
      ([], { st with precision := some (n.getD 0) }, { s with rest := rest })

/-- Carries out a directive behind its percent sign. -/
def directive (args : List FormatArg) (s : Scan) : Bytes × Scan :=
  let (st, rest) := flags {} s.rest
  let s := Scan.index args.length { s with rest := rest, good := true }
  let (widthNote, st, s) := s.width args st
  let (precisionNote, st, s) := s.precision args st
  let notes := widthNote ++ precisionNote
  let s := if s.afterIndex then s else s.index args.length
  match s.rest with
  | [] => (notes ++ "%!(NOVERB)", s)
  | b :: rest =>
    let (rune, more) := firstRune b rest
    let verb := rune.shown
    let s : Scan := { s with rest := rest.drop more }
    if verb = '%' then (notes ++ "%", s)
    else if !s.good then (notes ++ "%!" ++ String.utf8EncodeChar verb ++ "(BADINDEX)", s)
    else
      match args[s.next]? with
      | none => (notes ++ "%!" ++ String.utf8EncodeChar verb ++ "(MISSING)", s)
      | some a => (notes ++ formatArg st verb a, { s with next := s.next + 1 })

/-- Evaluates what is left of a format. -/
def evaluate (args : List FormatArg) : Nat → Scan → Bytes × Scan
  | 0, s => ([], s)
  | n + 1, s =>
    match s.rest with
    | [] => ([], s)
    | b :: rest =>
      let (shown, s) := if b = '%' then directive args { s with rest := rest }
        else ([b], { s with rest := rest })
      let (more, s) := evaluate args n s
      (shown ++ more, s)

/-- The note that lists unused arguments. -/
def extraNote (args : List FormatArg) : Bytes :=
  if args.isEmpty then []
  else "%!(EXTRA " ++ Bytes.join ", " (args.map fun a => typeName a ++ "=" ++ natural {} a) ++ ")"

end Format

/-- The text that a format and its arguments make. -/
def format (template : Bytes) (args : List FormatArg) : Bytes :=
  let (shown, s) := Format.evaluate args template.length { rest := template }
  shown ++ (if s.reordered then [] else Format.extraNote (args.drop s.next))

end Golden
