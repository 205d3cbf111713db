import Golden.Yaml.Cursor

/-!
# Reading scalars

Scalars come in five styles. In all but the literal one a single line break between two lines of text
becomes a space and further breaks are kept; the literal style keeps all of them. The readers stand
before the first character of the scalar, or before its opening indicator, and stop behind its last
one.

Text is collected in reverse.
-/

namespace Golden.Yaml

/-- The bytes of characters collected in reverse. -/
def collected (rev : List Char) : Bytes := rev.reverse.flatMap String.utf8EncodeChar

/-- Adds characters to a text in reverse. -/
def addChars (rev cs : List Char) : List Char := cs.reverse ++ rev

/-- The line breaks between two pieces of text: the first one, and those after it. -/
structure Breaks where
  first : List Char := []
  more : List Char := []
deriving DecidableEq, Repr

/-- What the breaks between two pieces of text become: a lone line feed becomes a space, a line feed
before other breaks disappears, and a Unicode separator stays. -/
def Breaks.fold (b : Breaks) : List Char :=
  if b.first.head? == some '\n' then (if b.more.isEmpty then [' '] else b.more) else b.first ++ b.more

/-! ## Blanks inside scalars -/

/-- What stands between two words of a scalar: blanks on one line, or line breaks. -/
inductive Gap where
  | blanks (cs : List Char)
  | breaks (b : Breaks)
deriving DecidableEq, Repr

/-- The text that a gap stands for. -/
def Gap.text : Gap → List Char
  | .blanks cs => cs
  | .breaks b => b.fold

/-- Reads blanks and line breaks. Blanks before a break and at the start of a line are dropped; at
the start of a line a tab in a column below `tabLimit` is refused. -/
def readGap (tabLimit : Nat) : Nat → Gap → Read Gap
  | 0, gap => pure gap
  | fuel + 1, gap => do
    let c ← peek
    if isBlankChar c then
      match gap with
      | .blanks cs =>
        skip
        readGap tabLimit fuel (.blanks (cs ++ [c]))
      | .breaks b =>
        if c == '\t' && (← get).column < tabLimit then failure
        skip
        readGap tabLimit fuel (.breaks b)
    else if isBreak c then
      let line ← readBreak
      match gap with
      | .blanks _ => readGap tabLimit fuel (.breaks { first := line })
      | .breaks b => readGap tabLimit fuel (.breaks { b with more := b.more ++ line })
    else return gap

/-! ## Plain scalars -/

/-- Does the plain scalar end before this character, which `next` follows? -/
def endsPlain (flow : Bool) (c next : Char) : Bool :=
  (c == ':' && isBlankOrEnd next)
    || (flow && (c == ',' || c == '?' || c == '[' || c == ']' || c == '\x7b' || c == '\x7d'))

/-- Reads the characters of a plain scalar up to a blank or an end; the gap before them is added
with the first one. -/
def plainWord (flow : Bool) : Nat → List Char → Gap → Read (List Char × Gap)
  | 0, rev, gap => pure (rev, gap)
  | fuel + 1, rev, gap => do
    let c ← peek
    if isBlankOrEnd c then return (rev, gap)
    if endsPlain flow c (← peekAt 1) then return (rev, gap)
    skip
    plainWord flow fuel (c :: addChars rev gap.text) (.blanks [])

/-- Reads the words of a plain scalar, and whether it was followed by a line break. -/
def plainWords (flow : Bool) (indent : Nat) : Nat → List Char → Gap → Read (List Char × Bool)
  | 0, rev, _ => pure (rev, false)
  | fuel + 1, rev, gap => do
    let done : List Char × Bool := (rev, match gap with
      | .blanks _ => false
      | .breaks _ => true)
    if (← atDocumentMarker '-') || (← atDocumentMarker '.') then return done
    if (← peek) == '#' then return done
    let (rev, gap) ← plainWord flow (← fuelHere) rev gap
    let c ← peek
    if !(isBlankChar c || isBreak c) then
      return (rev, match gap with
        | .blanks _ => false
        | .breaks _ => true)
    let gap ← readGap indent (← fuelHere) gap
    if !flow && (← get).column < indent then
      return (rev, match gap with
        | .blanks _ => false
        | .breaks _ => true)
    plainWords flow indent fuel rev gap

/-- Reads a plain scalar in a block indented by `indent`, and whether a line break follows it. -/
def plainScalar (flow : Bool) (indent : Nat) : Read (Bytes × Bool) := do
  let (rev, broken) ← plainWords flow indent (← fuelHere) [] (.blanks [])
  return (collected rev, broken)

/-! ## Quoted scalars -/

/-- The value of a hexadecimal digit. -/
def hexDigit? (c : Char) : Option Nat := if c.toNat < 0x80 then hexValue c.toUInt8 else none

/-- Reads `n` hexadecimal digits. -/
def hexNumber : Nat → Nat → Read Nat
  | 0, value => pure value
  | n + 1, value => do
    match hexDigit? (← peek) with
    | none => failure
    | some d =>
      skip
      hexNumber n (value * 16 + d)

/-- Reads the number of an escaped character. -/
def escapedNumber (digits : Nat) : Read Char := do
  need digits
  let n ← hexNumber digits 0
  if (0xd800 ≤ n && n ≤ 0xdfff) || n > 0x10ffff then failure
  return Char.ofNat n

/-- The character that a one-letter escape stands for. -/
def escapedLetter? (c : Char) : Option Char :=
  match c with
  | '0' => some '\x00'
  | 'a' => some '\x07'
  | 'b' => some '\x08'
  | 't' => some '\t'
  | '\t' => some '\t'
  | 'n' => some '\n'
  | 'v' => some '\x0b'
  | 'f' => some '\x0c'
  | 'r' => some '\r'
  | 'e' => some '\x1b'
  | ' ' => some ' '
  | '"' => some '"'
  | '\\' => some '\\'
  | 'N' => some '\u0085'
  | '_' => some '\u00a0'
  | 'L' => some '\u2028'
  | 'P' => some '\u2029'
  | c => if c.toNat = 0x27 then some c else none

/-- Reads an escape after its backslash. -/
def escape : Read Char := do
  let c ← readChar
  match c with
  | 'x' => escapedNumber 2
  | 'u' => escapedNumber 4
  | 'U' => escapedNumber 8
  | c =>
    match escapedLetter? c with
    | some e => return e
    | none => failure

/-- The quote of single-quoted scalars. -/
def singleQuote : Char := Char.ofNat 0x27

/-- Reads the characters of a quoted scalar up to a blank, an end, the closing quote or an escaped
line break, and says whether it was the latter. -/
def quotedWord (single : Bool) : Nat → List Char → Read (List Char × Bool)
  | 0, rev => pure (rev, false)
  | fuel + 1, rev => do
    let c ← peek
    if isBlankOrEnd c then return (rev, false)
    let next ← peekAt 1
    if single && c == singleQuote then
      if next == singleQuote then
        skipMany 2
        quotedWord single fuel (c :: rev)
      else return (rev, false)
    else if !single && c == '"' then return (rev, false)
    else if !single && c == '\\' then
      if isBreak next then
        need 3
        skip
        skipLine
        return (rev, true)
      else
        skip
        let e ← escape
        quotedWord single fuel (e :: rev)
    else
      skip
      quotedWord single fuel (c :: rev)

/-- Reads the words of a quoted scalar up to its closing quote. -/
def quotedWords (single : Bool) : Nat → List Char → Read (List Char)
  | 0, _ => failure
  | fuel + 1, rev => do
    if (← atDocumentMarker '-') || (← atDocumentMarker '.') then failure
    if (← peek) == endMark then failure
    let (rev, escapedBreak) ← quotedWord single (← fuelHere) rev
    let c ← peek
    if c == (if single then singleQuote else '"') then
      skip
      return rev
    let start : Gap := if escapedBreak then .breaks {} else .blanks []
    let gap ← readGap 0 (← fuelHere) start
    quotedWords single fuel (addChars rev gap.text)

/-- Reads a quoted scalar from its opening quote on. -/
def quotedScalar (single : Bool) : Read Bytes := do
  skip
  return collected (← quotedWords single (← fuelHere) [])

/-! ## Block scalars -/

/-- What becomes of the line breaks at the end of a block scalar. -/
inductive Chomping where
  /-- The last one is kept. -/
  | clip
  /-- None is kept. -/
  | strip
  /-- All are kept. -/
  | keep
deriving DecidableEq, Repr

/-- Reads a chomping indicator. -/
def chompingIndicator : Read (Option Chomping) := do
  let c ← peek
  if c == '+' then
    skip
    return some .keep
  else if c == '-' then
    skip
    return some .strip
  else return none

/-- Reads an indentation indicator, which must not be zero. -/
def indentIndicator : Read Nat := do
  let c ← peek
  if c == '0' then failure
  if c.isDigit then
    skip
    return c.toNat - 0x30
  else return 0

/-- Reads the indicators of a block scalar, in either order. -/
def blockIndicators : Read (Chomping × Nat) := do
  match ← chompingIndicator with
  | some chomping => return (chomping, ← indentIndicator)
  | none =>
    let increment ← indentIndicator
    if increment = 0 then return (.clip, 0)
    return ((← chompingIndicator).getD .clip, increment)

/-- Reads empty lines and the indentation of the line after them; `deepest` is the deepest
indentation so far. An indentation of zero is not yet known, and then any number of spaces is. -/
def blockBreaks (indent : Nat) : Nat → List Char → Nat → Read (List Char × Nat)
  | 0, breaks, deepest => pure (breaks, deepest)
  | fuel + 1, breaks, deepest => do
    let c ← peek
    let inIndent := indent == 0 || (← get).column < indent
    if inIndent && c == ' ' then
      skip
      blockBreaks indent fuel breaks deepest
    else
      let deepest := max deepest (← get).column
      if inIndent && c == '\t' then failure
      if isBreak c then
        let line ← readBreak
        blockBreaks indent fuel (breaks ++ line) deepest
      else return (breaks, deepest)

/-- Reads empty lines, and settles the indentation of the scalar if it is not known. -/
def settleIndent (indent : Nat) (parent : Int) : Read (List Char × Nat) := do
  let (breaks, deepest) ← blockBreaks indent (← fuelHere) [] 0
  if indent = 0 then return (breaks, max (max deepest (parent + 1).toNat) 1)
  return (breaks, indent)

/-- Reads the lines of a block scalar. `first` and `more` are the breaks before the line that starts
here, and `afterBlank` says whether the line before started with a blank. -/
def blockLines (isLiteral : Bool) (indent : Nat) (parent : Int) :
    Nat → List Char → List Char → List Char → Bool → Read (List Char × List Char × List Char)
  | 0, rev, first, more, _ => pure (rev, first, more)
  | fuel + 1, rev, first, more, afterBlank => do
    let c ← peek
    if (← get).column != indent || c == endMark then return (rev, first, more)
    let blank := isBlankChar c
    let joined :=
      if !isLiteral && !afterBlank && !blank && first.head? == some '\n' then
        (if more.isEmpty then [' '] else [])
      else first
    let line ← readWhile (fun c => !isBreakOrEnd c) (← fuelHere)
    let rev := addChars (addChars (addChars rev joined) more) line
    need 2
    let first ← readBreak
    let (more, indent) ← settleIndent indent parent
    blockLines isLiteral indent parent fuel rev first more blank

/-- Reads a block scalar from its indicator on, below a block indented by `parent`. -/
def blockScalar (isLiteral : Bool) (parent : Int) : Read Bytes := do
  skip
  let (chomping, increment) ← blockIndicators
  skipBlanks (← fuelHere)
  if (← peek) == '#' then skipToBreak (← fuelHere)
  if !isBreakOrEnd (← peek) then failure
  if isBreak (← peek) then skipLine
  let indent := if increment = 0 then 0 else (max parent 0).toNat + increment
  let (more, indent) ← settleIndent indent parent
  let (rev, first, more) ← blockLines isLiteral indent parent (← fuelHere) [] [] more false
  let rev := if chomping = .strip then rev else addChars rev first
  let rev := if chomping = .keep then addChars rev more else rev
  return collected rev

end Golden.Yaml
