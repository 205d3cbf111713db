import Golden.Yaml.Scalar
import Golden.Yaml.Token

/-!
# From characters to tokens

The lexer keeps track of indentation, of the nesting of flow collections, and of the places where a
mapping key may have started: whether a scalar is a key is known only when a colon follows it on the
same line. The tokens of a key that turns out to be one are inserted in front of it.

Tokens are produced as far as the text can be read (`tokens`). Since a token is handed out only when
two more are known and no undecided key starts at it, a fault also hides the tokens just before it.
A flow collection in which no key has started does not wait for the colon behind it: once it is handed
out, the tokens of the key come too late and stand behind it (`lexValue`).
-/

namespace Golden.Yaml

/-- A place where a key may have started, one for each level of flow nesting. -/
structure KeyPlace where
  possible : Bool := false
  /-- Must a colon follow, because the block continues with a key here? -/
  required : Bool := false
  /-- Does an undecided key hold back the token it starts with? -/
  holding : Bool := false
  /-- The number of the token that the key starts with. -/
  token : Nat := 0
  index : Nat := 0
  line : Nat := 0
  column : Nat := 0
deriving DecidableEq, Repr

/-- The state of the lexer. -/
structure Lexer where
  cursor : Cursor
  /-- The column of the innermost block; `-1` outside of all blocks. -/
  indent : Int := -1
  indents : List Int := []
  flowLevel : Nat := 0
  keyAllowed : Bool := true
  /-- The key places, innermost level first. -/
  places : List KeyPlace := [{}]
  tokens : Array Token := #[.streamStart]
  /-- How many tokens had been handed out when the next one was asked for. -/
  handedOut : Nat := 0
deriving DecidableEq, Repr

/-- Steps of the lexer. -/
abbrev Lex := StateT Lexer Option

/-- Deepest nesting of blocks or flow collections. -/
def maxNesting : Nat := 10000

/-- Farthest place of a colon from the start of its key, in characters. -/
def keyReach : Nat := 1024

/-- Reads with the cursor of the lexer. -/
def reading {α : Type} (r : Read α) : Lex α := fun s =>
  match r s.cursor with
  | none => none
  | some (a, cursor) => some (a, { s with cursor })

/-- Adds a token at the end. -/
def emit (t : Token) : Lex Unit := modify fun s => { s with tokens := s.tokens.push t }

/-- Inserts a token in front of the one with a number, or adds it at the end. -/
def emitBefore (before : Option Nat) (t : Token) : Lex Unit :=
  match before with
  | none => emit t
  | some n =>
    modify fun s => { s with tokens := s.tokens.extract 0 n ++ #[t] ++ s.tokens.extract n s.tokens.size }

/-! ## Keys -/

namespace Lexer

/-- Is it still possible that a colon here makes the place a key? A key stays on one line. -/
def inReach (s : Lexer) (k : KeyPlace) : Bool :=
  k.line ≥ s.cursor.line && k.index + keyReach ≥ s.cursor.index

/-- The key place of the innermost level. -/
def place (s : Lexer) : KeyPlace := s.places.headD {}

/-- Replaces the key place of the innermost level. -/
def withPlace (s : Lexer) (k : KeyPlace) : Lexer := { s with places := k :: s.places.drop 1 }

/-- The first token that is held back by an undecided key, or the number of tokens. -/
def firstHeld (s : Lexer) : Nat :=
  (s.places.filter fun k => k.possible && k.holding && (s.inReach k || k.required)).foldl
    (fun n k => min n k.token) s.tokens.size

/-- How many tokens can be handed out before the next one is read: two more must be known behind each
of them. -/
def availableCount (s : Lexer) : Nat := max s.handedOut (min (s.tokens.size - 2) s.firstHeld)

/-- The tokens that can be handed out before the next one is read. -/
def available (s : Lexer) : List Token := s.tokens.toList.take s.availableCount

end Lexer

/-- Gives up the key place of the innermost level, which must not be a required one. -/
def dropKey : Lex Unit := do
  let s ← get
  let k := s.place
  if k.possible then
    if k.required then failure
    set (s.withPlace { k with possible := false, holding := false })

/-- Marks a key place here, if a key may start here. -/
def markKey : Lex Unit := do
  let s ← get
  if s.keyAllowed then
    dropKey
    let c := s.cursor
    modify fun s => s.withPlace
      { possible := true, required := s.flowLevel == 0 && s.indent == c.column, holding := true,
        token := s.tokens.size, index := c.index, line := c.line, column := c.column }

/-- Says whether keys may start from here on. -/
def allowKey (b : Bool) : Lex Unit := modify fun s => { s with keyAllowed := b }

/-! ## Nesting -/

/-- Enters a flow collection. -/
def enterFlow : Lex Unit := do
  let s ← get
  if s.flowLevel + 1 > maxNesting then failure
  set { s with flowLevel := s.flowLevel + 1, places := { token := s.tokens.size } :: s.places }

/-- Leaves a flow collection. The key place of the level goes, and with it the hold on its token. -/
def leaveFlow : Lex Unit := modify fun s =>
  if s.flowLevel = 0 then s
  else
    let token := s.place.token
    { s with
      flowLevel := s.flowLevel - 1
      places := (s.places.drop 1).map fun k => if k.token = token then { k with holding := false } else k }

/-- Opens a block in a column that is deeper than the current block; its start token goes in front of
the token with a number, or at the end. -/
def openBlock (column : Nat) (before : Option Nat) (t : Token) : Lex Unit := do
  let s ← get
  if s.flowLevel = 0 && s.indent < column then
    if s.indents.length + 1 > maxNesting then failure
    set { s with indents := s.indent :: s.indents, indent := column }
    emitBefore before t

/-- Closes the blocks that are deeper than a column; the argument holds their enclosing columns. -/
def closeBlocksTo (column : Int) : List Int → Lex Unit
  | [] => pure ()
  | outer :: rest => do
    if (← get).indent > column then
      emit .blockEnd
      modify fun s => { s with indent := outer, indents := rest }
      closeBlocksTo column rest

/-- Closes the blocks that are deeper than a column. Inside flow collections columns do not count. -/
def closeBlocks (column : Int) : Lex Unit := do
  let s ← get
  if s.flowLevel = 0 then closeBlocksTo column s.indents

/-! ## Directives, anchors and tags -/

/-- The bytes of characters. -/
def charBytes (cs : List Char) : Bytes := cs.flatMap String.utf8EncodeChar

/-- Reads a run of word characters. -/
def word : Read (List Char) := do readWhile isWordChar (← fuelHere)

/-- Reads a version number of one or two digits. -/
def versionNumber : Read Nat := do
  let ds ← readWhile Char.isDigit (← fuelHere)
  if ds.isEmpty || ds.length > 2 then failure
  return ds.foldl (fun n c => n * 10 + (c.toNat - 0x30)) 0

/-- Reads an escaped octet of a tag. -/
def escapedOctet : Read UInt8 := do
  need 3
  if (← peek) != '%' then failure
  match hexDigit? (← peekAt 1), hexDigit? (← peekAt 2) with
  | some a, some b =>
    skipMany 3
    return UInt8.ofNat (a * 16 + b)
  | _, _ => failure

/-- Reads escaped octets that continue a character. -/
def continuationOctets : Nat → Read Bytes
  | 0 => pure []
  | n + 1 => do
    let b ← escapedOctet
    if !isContinuation b then failure
    return b :: (← continuationOctets n)

/-- Reads the escaped octets of one character. -/
def escapedChar : Read Bytes := do
  let a ← escapedOctet
  match announcedWidth a with
  | none => failure
  | some width => return a :: (← continuationOctets (width - 1))

/-- A character of tags, escapes included. -/
def isTagChar (c : Char) : Bool :=
  isWordChar c || ";/?:@&=+$,.!~*()[]%".toList.contains c || c == singleQuote

/-- Reads the characters of a tag. -/
def tagChars : Nat → Read Bytes
  | 0 => pure []
  | fuel + 1 => do
    let c ← peek
    if !isTagChar c then return []
    if c == '%' then
      let bytes ← escapedChar
      return bytes ++ (← tagChars fuel)
    else
      skip
      return String.utf8EncodeChar c ++ (← tagChars fuel)

/-- Reads the rest of a tag, which is not empty unless something was read before. -/
def tagRest (readBefore : Bool) : Read Bytes := do
  let bytes ← tagChars (← fuelHere)
  if bytes.isEmpty && !readBefore then failure
  return bytes

/-- Reads an exclamation mark, word characters, and a second exclamation mark if there is one. -/
def tagHandle : Read (List Char) := do
  if (← peek) != '!' then failure
  skip
  let w ← word
  if (← peek) == '!' then
    skip
    return '!' :: w ++ ['!']
  else return '!' :: w

/-- Reads a tag: verbatim, with a handle, or with the primary handle. -/
def tagToken : Read Token := do
  let token ← do
    if (← peekAt 1) == '<' then
      skipMany 2
      let suffix ← tagRest false
      if (← peek) != '>' then failure
      skip
      pure (Token.tag [] suffix)
    else
      let handle ← tagHandle
      if handle.length > 1 && handle.getLast? == some '!' then
        pure (Token.tag (charBytes handle) (← tagRest false))
      else
        let suffix := charBytes (handle.drop 1) ++ (← tagRest true)
        pure (if suffix.isEmpty then Token.tag [] "!" else Token.tag "!" suffix)
  if !isBlankOrEnd (← peek) then failure
  return token

/-- Reads the name of an anchor or alias after its indicator. -/
def anchorName : Read Bytes := do
  skip
  let name ← word
  let c ← peek
  if name.isEmpty || !(isBlankOrEnd c || "?:,]\x7d%@\x60".toList.contains c) then failure
  return charBytes name

/-- Reads a directive with the rest of its line. -/
def directive : Read Token := do
  skip
  let name ← word
  if name.isEmpty || !isBlankOrEnd (← peek) then failure
  let token ← do
    if name = "YAML".toList then
      skipBlanks (← fuelHere)
      let major ← versionNumber
      if (← peek) != '.' then failure
      skip
      pure (Token.versionDirective major (← versionNumber))
    else if name = "TAG".toList then
      skipBlanks (← fuelHere)
      let handle ← tagHandle
      if handle.length > 1 && handle.getLast? != some '!' then failure
      if !isBlankChar (← peek) then failure
      skipBlanks (← fuelHere)
      let replacement ← tagRest false
      if !isBlankOrEnd (← peek) then failure
      pure (Token.tagDirective (charBytes handle) replacement)
    else failure
  skipBlanks (← fuelHere)
  if (← peek) == '#' then skipToBreak (← fuelHere)
  if !isBreakOrEnd (← peek) then failure
  if isBreak (← peek) then skipLine
  return token

/-! ## One token -/

/-- Passes over blanks, comments and line breaks up to the next token. Tabs do not indent: where a
key may start they are left standing, and fail as the start of a token. -/
def toNextToken : Nat → Lex Unit
  | 0 => pure ()
  | fuel + 1 => do
    reading (need 1)
    let s ← get
    if s.cursor.column == 0 && s.cursor.startsWithMark then reading skip
    let c ← reading peek
    let s ← get
    if c == ' ' || ((s.flowLevel > 0 || !s.keyAllowed) && c == '\t') then
      reading skip
      toNextToken fuel
    else
      if c == '#' then reading (do skipComments (← fuelHere))
      if isBreak (← reading peek) then
        reading skipLine
        if s.flowLevel = 0 then allowKey true
        toNextToken fuel

/-- Ends the stream. -/
def endStream : Lex Unit := do
  modify fun s =>
    if s.cursor.column = 0 then s
    else { s with cursor := { s.cursor with column := 0, line := s.cursor.line + 1 } }
  closeBlocks (-1)
  dropKey
  allowKey false
  emit .streamEnd

/-- Reads a directive. -/
def lexDirective : Lex Unit := do
  closeBlocks (-1)
  dropKey
  allowKey false
  emit (← reading directive)

/-- Reads a document marker. -/
def lexDocumentMarker (t : Token) : Lex Unit := do
  closeBlocks (-1)
  dropKey
  allowKey false
  reading (skipMany 3)
  emit t

/-- Reads the start of a flow collection, which may itself be a key. -/
def lexFlowStart (t : Token) : Lex Unit := do
  markKey
  enterFlow
  allowKey true
  reading skip
  emit t

/-- Reads the end of a flow collection. -/
def lexFlowEnd (t : Token) : Lex Unit := do
  dropKey
  leaveFlow
  allowKey false
  reading skip
  emit t

/-- Reads the comma between entries of a flow collection. -/
def lexFlowEntry : Lex Unit := do
  dropKey
  allowKey true
  reading skip
  emit .flowEntry

/-- Reads the dash of a block sequence. -/
def lexBlockEntry : Lex Unit := do
  let s ← get
  if s.flowLevel = 0 then
    if !s.keyAllowed then failure
    openBlock s.cursor.column none .blockSequenceStart
  dropKey
  allowKey true
  reading skip
  emit .blockEntry

/-- Reads the question mark before a key. -/
def lexKey : Lex Unit := do
  let s ← get
  if s.flowLevel = 0 then
    if !s.keyAllowed then failure
    openBlock s.cursor.column none .blockMappingStart
  dropKey
  allowKey (s.flowLevel == 0)
  reading skip
  emit .key

/-- Reads the colon before a value. If a key place is in reach, what stands there was a key, and its
tokens go in front of it unless it is handed out already. -/
def lexValue : Lex Unit := do
  let s ← get
  let k := s.place
  if k.possible && !s.inReach k && k.required then failure
  if k.possible && s.inReach k then
    let before := if k.token < s.handedOut then none else some k.token
    emitBefore before .key
    openBlock k.column before .blockMappingStart
    modify fun s => s.withPlace { k with possible := false, holding := false }
    allowKey false
  else
    modify fun s => s.withPlace { k with possible := false }
    if s.flowLevel = 0 then
      if !s.keyAllowed then failure
      openBlock s.cursor.column none .blockMappingStart
    allowKey (s.flowLevel == 0)
  reading skip
  emit .value

/-- Reads something that may be a key or start one. -/
def lexNodeStart (r : Read Token) : Lex Unit := do
  markKey
  allowKey false
  emit (← reading r)

/-- Reads a block scalar. -/
def lexBlockScalar (isLiteral : Bool) : Lex Unit := do
  dropKey
  allowKey true
  let s ← get
  let text ← reading (blockScalar isLiteral s.indent)
  emit (.scalar text (if isLiteral then .literal else .folded))

/-- Reads a plain scalar. A key may start on the line after it. -/
def lexPlainScalar : Lex Unit := do
  markKey
  allowKey false
  let s ← get
  let (text, broken) ← reading (plainScalar (s.flowLevel > 0) (s.indent + 1).toNat)
  emit (.scalar text .plain)
  if broken then allowKey true

/-- Characters that cannot start a plain scalar. -/
def isIndicator (c : Char) : Bool :=
  "-?:,[]\x7b\x7d#&*!|>\"%@\x60".toList.contains c || c == singleQuote

/-- Can a plain scalar start with this character, which `next` follows? -/
def startsPlain (flow : Bool) (c next : Char) : Bool :=
  !(isBlankOrEnd c || isIndicator c)
    || (c == '-' && !isBlankChar next)
    || (!flow && (c == '?' || c == ':') && !isBlankOrEnd next)

/-- Reads the token that starts here, in a line or a flow collection. -/
def lexInline (c next : Char) : Lex Unit := do
  let flow := (← get).flowLevel > 0
  if c == '[' then lexFlowStart .flowSequenceStart
  else if c == '\x7b' then lexFlowStart .flowMappingStart
  else if c == ']' then lexFlowEnd .flowSequenceEnd
  else if c == '\x7d' then lexFlowEnd .flowMappingEnd
  else if c == ',' then lexFlowEntry
  else if c == '-' && isBlankOrEnd next then lexBlockEntry
  else if c == '?' && (flow || isBlankOrEnd next) then lexKey
  else if c == ':' && (flow || isBlankOrEnd next) then lexValue
  else if c == '*' then lexNodeStart (do return .alias (← anchorName))
  else if c == '&' then lexNodeStart (do return .anchor (← anchorName))
  else if c == '!' then lexNodeStart tagToken
  else if c == '|' && !flow then lexBlockScalar true
  else if c == '>' && !flow then lexBlockScalar false
  else if c == singleQuote then lexNodeStart (do return .scalar (← quotedScalar true) .singleQuoted)
  else if c == '"' then lexNodeStart (do return .scalar (← quotedScalar false) .doubleQuoted)
  else if startsPlain flow c next then lexPlainScalar
  else failure

/-- Reads the next token, with the block ends before it and the comment after it. -/
def lexNext : Lex Unit := do
  modify fun s => { s with handedOut := s.availableCount }
  reading (need 1)
  toNextToken ((← get).cursor.remaining + 1)
  closeBlocks (← get).cursor.column
  reading (need 4)
  let c ← reading peek
  if c == endMark then endStream
  else if (← get).cursor.column == 0 && c == '%' then lexDirective
  else if ← reading (atDocumentMarker '-') then lexDocumentMarker .documentStart
  else if ← reading (atDocumentMarker '.') then lexDocumentMarker .documentEnd
  else
    lexInline c (← reading (peekAt 1))
    if (← get).tokens.back? != some .blockEntry then reading skipLineComment

/-! ## All tokens -/

/-- The tokens of a stream: as many as can be handed out, and whether that is all of them. -/
structure TokenStream where
  tokens : List Token
  complete : Bool
deriving DecidableEq, Repr

/-- Reads tokens up to the end of the stream or the first fault. -/
def lexAll : Nat → Lexer → TokenStream
  | 0, s => ⟨s.available, false⟩
  | fuel + 1, s =>
    match lexNext s with
    | none => ⟨s.available, false⟩
    | some ((), s') =>
      if s'.tokens.back? = some .streamEnd then ⟨s'.tokens.toList, true⟩ else lexAll fuel s'

/-- The tokens of a stream. -/
def tokens (data : Bytes) : TokenStream :=
  let cursor := Cursor.ofBytes data
  match need 1 cursor with
  | none => ⟨[], false⟩
  | some ((), cursor) => lexAll (cursor.remaining + 2) { cursor }

end Golden.Yaml
