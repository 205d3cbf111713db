import Golden.Yaml.Source

/-!
# A position in a YAML stream

A cursor stands before the next character. It counts characters, lines and columns, and the line
breaks since the last character that is not blank. Behind the end of the stream stands the null
character, which no stream can contain.

Reading fails only where a window of the stream is broken.
-/

namespace Golden.Yaml

/-- A position in a stream. -/
structure Cursor where
  /-- The characters that are loaded and not yet read. -/
  buffer : List Char
  /-- The windows that are not yet loaded. -/
  pending : List Chunk
  /-- Did the loaded text start with a byte order mark when it was last filled up? -/
  startsWithMark : Bool := false
  index : Nat := 0
  line : Nat := 0
  column : Nat := 0
  /-- Line breaks since the last character that is not blank. -/
  newlines : Nat := 0
deriving DecidableEq, Repr

/-- Reading from a stream. -/
abbrev Read := StateT Cursor Option

/-- The character behind the end of the stream. -/
def endMark : Char := '\x00'

/-- A space or a tab. -/
def isBlankChar (c : Char) : Bool := c == ' ' || c == '\t'

/-- A line break: carriage return, line feed, next line, line separator or paragraph separator. -/
def isBreak (c : Char) : Bool :=
  c == '\r' || c == '\n' || c == '\u0085' || c == '\u2028' || c == '\u2029'

/-- A line break or the end of the stream. -/
def isBreakOrEnd (c : Char) : Bool := isBreak c || c == endMark

/-- A blank, a line break or the end of the stream. -/
def isBlankOrEnd (c : Char) : Bool := isBlankChar c || isBreakOrEnd c

/-- A character of anchors, directive names and tag handles. -/
def isWordChar (c : Char) : Bool := c.isAlphanum || c == '_' || c == '-'

namespace Cursor

/-- The start of a stream. -/
def ofBytes (data : Bytes) : Cursor := { buffer := [], pending := chunks data }

/-- The number of characters ahead, an upper bound for every loop that reads. -/
def remaining (c : Cursor) : Nat :=
  c.buffer.length + c.pending.foldl (fun n k => match k with
    | .chars cs => n + cs.length + 1
    | .broken => n + 1) 0

/-- Loads windows until `n` characters are there or the stream is used up. -/
def load (n : Nat) : List Char → List Chunk → Option (List Char × List Chunk)
  | buffer, [] => some (buffer, [])
  | buffer, .broken :: rest => if buffer.length ≥ n then some (buffer, .broken :: rest) else none
  | buffer, .chars cs :: rest =>
    if buffer.length ≥ n then some (buffer, .chars cs :: rest) else load n (buffer ++ cs) rest

end Cursor

/-- Makes sure that the next `n` characters are loaded, as far as the stream goes. -/
def need (n : Nat) : Read Unit := fun c =>
  if c.buffer.length ≥ n then some ((), c)
  else
    match Cursor.load n c.buffer c.pending with
    | none => none
    | some (buffer, pending) =>
      some ((), { c with buffer, pending, startsWithMark := buffer.head? == some '\ufeff' })

/-- The character `k` places ahead. -/
def peekAt (k : Nat) : Read Char := do
  need (k + 1)
  return ((← get).buffer.drop k).headD endMark

/-- The next character. -/
def peek : Read Char := peekAt 0

/-- Passes over a character that is no line break. -/
def skip : Read Unit := modify fun c =>
  { c with
    buffer := c.buffer.drop 1
    index := c.index + 1
    column := c.column + 1
    newlines := if isBlankChar (c.buffer.headD endMark) then c.newlines else 0 }

/-- Passes over several characters on one line. -/
def skipMany : Nat → Read Unit
  | 0 => pure ()
  | n + 1 => do skip; skipMany n

/-- Passes over a line break, a carriage return and a line feed together being one. -/
def skipLine : Read Unit := do
  need 2
  modify fun c =>
    let width := match c.buffer with
      | '\r' :: '\n' :: _ => 2
      | _ => 1
    { c with
      buffer := c.buffer.drop width
      index := c.index + width
      column := 0
      line := c.line + 1
      newlines := c.newlines + 1 }

/-- Reads a character that is no line break. -/
def readChar : Read Char := do
  let c ← peek
  skip
  return c

/-- Reads a line break as a line feed; the two Unicode separators stay what they are. -/
def readBreak : Read (List Char) := do
  let c ← peek
  if isBreak c then
    skipLine
    return if c == '\u2028' || c == '\u2029' then [c] else ['\n']
  else return []

/-- Passes over blanks. -/
def skipBlanks : Nat → Read Unit
  | 0 => pure ()
  | fuel + 1 => do
    if isBlankChar (← peek) then
      skip
      skipBlanks fuel

/-- Reads characters as long as they satisfy a test that no line break satisfies. -/
def readWhile (p : Char → Bool) : Nat → Read (List Char)
  | 0 => pure []
  | fuel + 1 => do
    if p (← peek) then
      let c ← readChar
      return c :: (← readWhile p fuel)
    else return []

/-- Passes over the rest of the line. -/
def skipToBreak : Nat → Read Unit
  | 0 => pure ()
  | fuel + 1 => do
    if !isBreakOrEnd (← peek) then
      skip
      skipToBreak fuel

/-- The number of characters ahead. -/
def fuelHere : Read Nat := do return (← get).remaining + 1

/-- Is this a document marker: at the start of a line, three times the same character and then a
blank or an end? -/
def atDocumentMarker (c : Char) : Read Bool := do
  need 4
  let a ← peekAt 0
  let b ← peekAt 1
  let d ← peekAt 2
  let e ← peekAt 3
  return (← get).column == 0 && a == c && b == c && d == c && isBlankOrEnd e

/-! ## Comments -/

/-- Farthest place, in characters, at which a comment is still looked for. -/
def commentReach : Nat := 512

/-- A line break that comments may continue behind. The Unicode line breaks end a run of comments. -/
def isPlainBreak (c : Char) : Bool := c == '\r' || c == '\n'

/-- The offset of a number sign ahead, if only blanks, and line breaks if they are `allowed`, come
before it. -/
def commentAhead (allowed : Bool) : Nat → Nat → Read (Option Nat)
  | 0, _ => pure none
  | fuel + 1, k => fun cursor =>
    match peekAt k cursor with
    | none => some (none, cursor)
    | some (c, cursor) =>
      if isBlankChar c || (allowed && isPlainBreak c) then commentAhead allowed fuel (k + 1) cursor
      else if c == '#' then some (some k, cursor)
      else some (none, cursor)

/-- Passes over blanks and line breaks up to an index. -/
def skipTo (index : Nat) : Nat → Read Unit
  | 0 => pure ()
  | fuel + 1 => do
    if (← get).index < index then
      if isBreak (← peek) then skipLine else skip
      skipTo index fuel

/-- Passes over a comment and over the comments on the lines after it, blank lines between them
included, as long as plain line breaks separate them. The last line break stays. -/
def skipComments : Nat → Read Unit
  | 0 => pure ()
  | fuel + 1 => do
    skipToBreak (← fuelHere)
    match ← commentAhead true commentReach 0 with
    | none => pure ()
    | some k =>
      skipTo ((← get).index + k) (k + 1)
      skipComments fuel

/-- Passes over a comment at the end of a line that holds a token. -/
def skipLineComment : Read Unit := do
  if (← get).newlines > 0 then return
  match ← commentAhead false commentReach 0 with
  | none => pure ()
  | some k =>
    skipMany k
    skipToBreak (← fuelHere)

end Golden.Yaml
