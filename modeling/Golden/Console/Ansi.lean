import Golden.Text.Bytes

/-!
# Terminal colours

Colours are switched on and off by short escape sequences inside the text. `paint` puts them around a
text, `highlight` around the placeholders of a usage line, and `stripColors` takes them out again.
-/

namespace Golden

/-- The byte that starts an escape sequence. -/
def escByte : UInt8 := 0x1b

/-- A colour or weight of the terminal. -/
inductive Ink where
  | bold
  | dim
  | red
  | green
  | yellow
  | cyan
deriving DecidableEq, Repr

/-- The number of an ink. -/
def Ink.number : Ink → Bytes
  | .bold => "1"
  | .dim => "2"
  | .red => "31"
  | .green => "32"
  | .yellow => "33"
  | .cyan => "36"

/-- An escape sequence with a number. -/
def escapeSequence (number : Bytes) : Bytes := [escByte, 0x5b] ++ number ++ [0x6d]

/-- Switches an ink on. -/
def Ink.on (i : Ink) : Bytes := escapeSequence i.number

/-- Switches all inks off. -/
def inkOff : Bytes := escapeSequence "0"

/-- The text in the given inks, if colours are wanted. -/
def paint (color : Bool) (inks : List Ink) (s : Bytes) : Bytes :=
  if color then inks.flatMap Ink.on ++ s ++ inkOff else s

/-! ## Placeholders -/

/-- Paints the placeholders of a text. A placeholder goes from `<` to the next `>`; a `<` without a
`>` behind it starts none. `inside` says whether a placeholder is in progress. -/
def highlightFrom (inside : Bool) : Bytes → Bytes
  | [] => []
  | b :: s =>
    if inside then
      if b = '>' then b :: (inkOff ++ highlightFrom false s) else b :: highlightFrom true s
    else if b = '<' && s.contains 0x3e then inkOff ++ Ink.green.on ++ b :: highlightFrom true s
    else b :: highlightFrom false s

/-- Paints the placeholders of a text. -/
def highlight (s : Bytes) : Bytes := highlightFrom false s

/-! ## Taking colours out -/

/-- What follows the escape sequence that starts the text, if one does. -/
def afterEscape? : Bytes → Option Bytes
  | e :: b :: s =>
    if e = escByte && b = '[' then
      match s.dropWhile isDigit with
      | m :: rest => if m = 'm' then some rest else none
      | [] => none
    else none
  | _ => none

/-- Deletes escape sequences of colours; `skip` bytes still belong to the sequence in progress. -/
def stripFrom : Nat → Bytes → Bytes
  | _, [] => []
  | skip + 1, _ :: s => stripFrom skip s
  | 0, b :: s =>
    match afterEscape? (b :: s) with
    | some rest => stripFrom (s.length - rest.length) s
    | none => b :: stripFrom 0 s

/-- The text without the escape sequences of colours. -/
def stripColors (s : Bytes) : Bytes := stripFrom 0 s

end Golden
