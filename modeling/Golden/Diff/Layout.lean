import Golden.Diff.Record
import Golden.Text.Quote
import Golden.Text.Space

/-!
# Differences as text

`difference` shows how two texts differ, in one of five layouts. Texts of which one is short are shown
whole. Otherwise, texts made of lines are compared line by line, either as they are between triple
quotes or, where that could mislead, as quoted strings; other texts are compared byte by byte, as
quoted pieces or, when they are not mostly readable, as hexadecimal numbers.

Every line starts with a mark of two characters and an indentation. The comparison library writes the spaces
of its marks as ordinary or as non-breaking ones and chooses anew in every process, so that nobody relies on
its exact output. Here that choice is fixed: the spaces are ordinary ones.
-/

namespace Golden.Diff

/-! ## Lines of output -/

/-- The mark in front of a line. -/
def Mark.gutter : Mark → Bytes
  | .unchanged => "  "
  | .removed => "- "
  | .inserted => "+ "

/-- A line at the outer level. -/
def outerLine (s : Bytes) : Bytes := utf8 "  " ++ s ++ "\n"

/-- A line of a record. -/
def innerLine (m : Mark) (s : Bytes) : Bytes := m.gutter ++ "\t" ++ s ++ "\n"

/-- The line of an omission. -/
def omissionLine (name : Bytes) (counts : Stretch) : Bytes :=
  innerLine .unchanged ("... // " ++ counts.description name)

/-! ## Quoted texts -/

/-- The byte that starts and ends a raw literal. -/
def rawQuote : UInt8 := 0x60

/-- A printable character or a tab. -/
def isRawRune : Rune → Bool
  | .char c => isPrintable c || c = '\t'
  | .stray _ => false

/-- The text as a literal: in double quotes if nothing has to be escaped, else raw if that is possible,
else in double quotes with escapes. -/
def literal (s : Bytes) : Bytes :=
  let q := quote s
  if q.length = s.length + 2 then q
  else if !s.contains rawQuote && (runes s).all isRawRune then rawQuote :: s ++ [rawQuote]
  else q

/-! ## Short texts -/

/-- Texts below this length are shown whole. -/
def shortLength : Nat := 32

/-- The literal of a text, cut when it is long. -/
def shortLiteral (s : Bytes) : Bytes :=
  if s.length > 259 then literal (s.take 256) ++ "..." else literal s

/-- Both texts whole. -/
def wholeLayout (x y : Bytes) : Bytes :=
  outerLine "string(" ++ innerLine .removed (shortLiteral x ++ ",")
    ++ innerLine .inserted (shortLiteral y ++ ",") ++ outerLine ")"

/-! ## Kinds of texts -/

/-- A character that people can read. -/
def isReadable : Rune → Bool
  | .char c => (isPrintable c || isSpace c) && c != '\ufffd'
  | .stray _ => false

/-- Are more than nine tenths of the characters readable? -/
def isMostlyText (s : Bytes) : Bool :=
  let rs := runes s
  rs.countP isReadable > rs.length * 9 / 10

/-- The length of the longest line that ends in a line feed. -/
def longestLine (s : Bytes) : Nat :=
  ((Bytes.splitOn 0x0a s).dropLast.map List.length).foldl max 0

/-- Is the text readable and made of several lines that are not too long? -/
def isLined (s : Bytes) : Bool :=
  (runes s).all isReadable && s.count 0x0a ≥ 4 && longestLine s ≤ 1024

/-- The lines of a text, without their ends. -/
def lineList (s : Bytes) : List Bytes := Bytes.splitOn 0x0a s

/-- Is a comparison by lines worth it? It is unless it changes much more than one by bytes does, and
also when the texts hold much that would have to be escaped. -/
def prefersLines (x y : Bytes) : Bool :=
  let byLines := Script.between (lineList x).toArray (lineList y).toArray
  let byBytes := Script.between x.toArray y.toArray
  byLines.distance * byBytes.length < 4 * byBytes.distance * byLines.length
    || 10 * (quote (x ++ y)).length > 11 * (x ++ y).length

/-! ## Lines between triple quotes -/

/-- Drops a carriage return at the end and one at the start. -/
def trimReturns (s : Bytes) : Bytes :=
  let s := if s.getLast? == some 0x0d then s.dropLast else s
  if s.head? == some 0x0d then s.drop 1 else s

/-- The text without white space. -/
def withoutSpace (s : Bytes) : Bytes := encodeRunes ((runes s).filter fun r => !r.isSpace)

/-- Is the line readable between triple quotes? -/
def isPlainLine (s : Bytes) : Bool :=
  !Bytes.startsWith "\"\"\"" s && !Bytes.startsWith "..." s
    && (((runes s).dropWhile isRawRune).reverse.dropWhile isRawRune).isEmpty

/-- The lines between triple quotes, unless one of them is not readable there or a removed line looks
like an inserted one, white space aside. `removed` and `inserted` hold the lines of the change in
progress. -/
def tripleLines? (removed inserted : List Bytes) : List (Record Bytes) → Option (List (Mark × Bytes))
  | [] => some []
  | .omitted counts :: rs =>
    (tripleLines? [] [] rs).map ((.unchanged, "... // " ++ counts.description "line") :: ·)
  | .shown mark items :: rs =>
    let line := trimReturns (items.headD [])
    let bare := withoutSpace line
    if !isPlainLine line then none
    else
      match mark with
      | .unchanged => (tripleLines? [] [] rs).map ((mark, line) :: ·)
      | .removed =>
        if inserted.contains bare then none
        else (tripleLines? (bare :: removed) inserted rs).map ((mark, line) :: ·)
      | .inserted =>
        if removed.contains bare then none
        else (tripleLines? removed (bare :: inserted) rs).map ((mark, line) :: ·)

/-- Drops an unchanged empty line at the end. -/
def dropEmptyEnd (ls : List (Mark × Bytes)) : List (Mark × Bytes) :=
  if ls.getLast? == some (.unchanged, []) then ls.dropLast else ls

/-- Lines between triple quotes. -/
def tripleLayout (ls : List (Mark × Bytes)) : Bytes :=
  outerLine "(" ++ innerLine .unchanged "\"\"\"" ++ (dropEmptyEnd ls).flatMap (fun (m, s) => innerLine m s)
    ++ innerLine .unchanged "\"\"\"" ++ outerLine ")"

/-! ## Quoted pieces -/

/-- The line of a record with a literal. -/
def literalLine (name : Bytes) {α : Type} (content : List α → Bytes) : Record α → Bytes
  | .shown mark items => innerLine mark (literal (content items) ++ ",")
  | .omitted counts => omissionLine name counts

/-- Literals that are joined with a separator. -/
def joinLayout (separator name : Bytes) {α : Type} (content : List α → Bytes) (rs : List (Record α)) :
    Bytes :=
  outerLine "strings.Join(\x7b" ++ rs.flatMap (literalLine name content)
    ++ outerLine (utf8 "\x7d, " ++ quote separator ++ ")")

/-! ## Bytes as numbers -/

/-- Bytes as hexadecimal numbers. -/
def hexNumbers (bs : Bytes) : Bytes := Bytes.join ", " (bs.map fun b => "0x" ++ hexPadded 2 b.toNat)

/-- Bytes as ASCII characters, with a dot for those that have none. -/
def asciiColumn (bs : Bytes) : Bytes := bs.map fun b => if 0x20 ≤ b && b ≤ 0x7e then b else 0x2e

/-- The byte that shows a mark in the margin. -/
def Mark.sign : Mark → UInt8
  | .unchanged => 0x20
  | .removed => 0x2d
  | .inserted => 0x2b

/-- The length of the longest number list up to the next omission. -/
def runWidth : List (Record UInt8) → Nat
  | .shown _ bs :: rs => max (hexNumbers bs).length (runWidth rs)
  | _ => 0

/-- The lines of records of bytes. Between omissions the margins are aligned to `width`. -/
def byteLines (width : Nat) : List (Record UInt8) → Bytes
  | [] => []
  | .omitted counts :: rs => omissionLine "byte" counts ++ byteLines (runWidth rs) rs
  | .shown mark bs :: rs =>
    let numbers := hexNumbers bs
    innerLine mark (numbers ++ utf8 "," ++ Bytes.replicate (width - numbers.length) 0x20 ++ utf8 " // "
        ++ [mark.sign, 0x7c] ++ asciiColumn bs ++ [0x7c])
      ++ byteLines width rs

/-- Bytes as numbers. -/
def byteLayout (rs : List (Record UInt8)) : Bytes :=
  outerLine "string\x7b" ++ byteLines (runWidth rs) rs ++ outerLine "\x7d"

/-! ## The difference -/

/-- Texts compared line by line. -/
def lineLayout (x y : Bytes) : Bytes :=
  let rs := records 1 (lineList x) (lineList y)
  match tripleLines? [] [] rs with
  | some ls => tripleLayout ls
  | none => joinLayout "\n" "line" (fun (items : List Bytes) => items.headD []) rs

/-- How two texts differ; empty if they do not. -/
def difference (x y : Bytes) : Bytes :=
  if x = y then []
  else if x.length < shortLength || y.length < shortLength then wholeLayout x y
  else if isLined (x ++ y) && prefersLines x y then lineLayout x y
  else if isMostlyText (x ++ y) then joinLayout [] "byte" id (records 64 x y)
  else byteLayout (records 16 x y)

end Golden.Diff
