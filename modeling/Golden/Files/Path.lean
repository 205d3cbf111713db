import Golden.Text.Bytes

/-!
# Paths as texts

Operations that look only at the text of a slash-separated path. `clean` drops empty and `.` elements
and lets `..` cancel the element before it; it never asks what the elements name, so on a tree with
links a cleaned path can name another file than the path it came from.
-/

namespace Golden.Path

/-- The separator of path elements. -/
def slash : UInt8 := 0x2f

/-- Does the path start at the root? -/
def isAbsolute (p : Bytes) : Bool := p.head? == some slash

/-- Adds one element to the cleaned elements, which are held in reverse. -/
def addElement (rooted : Bool) (done : List Bytes) (e : Bytes) : List Bytes :=
  if e = [] || e = utf8 "." then done
  else if e = utf8 ".." then
    match done with
    | [] => if rooted then [] else [e]
    | last :: rest => if last = utf8 ".." then e :: done else rest
  else e :: done

/-- The elements of the cleaned path. -/
def cleanElements (p : Bytes) : List Bytes :=
  ((Bytes.splitOn slash p).foldl (addElement (isAbsolute p)) []).reverse

/-- The shortest path that reads the same element by element. The empty path becomes `.`. -/
def clean (p : Bytes) : Bytes :=
  let body := Bytes.join [slash] (cleanElements p)
  if isAbsolute p then slash :: body
  else if body.isEmpty then "." else body

/-- Puts a name under a directory and cleans the result. An empty directory adds nothing. -/
def join (dir name : Bytes) : Bytes :=
  if dir.isEmpty then (if name.isEmpty then [] else clean name)
  else clean (dir ++ slash :: name)

/-- The part after the last separator. -/
def lastElement (p : Bytes) : Bytes :=
  match Bytes.lastIndexOf slash p with
  | some i => p.drop (i + 1)
  | none => p

/-- The extension: the last element from its last dot on, empty without a dot. -/
def extension (p : Bytes) : Bytes :=
  let e := lastElement p
  match Bytes.lastIndexOf '.' e with
  | some i => e.drop i
  | none => []

/-- The last element, trailing separators aside. -/
def base (p : Bytes) : Bytes :=
  if p.isEmpty then "."
  else
    let q := Bytes.dropRightWhile (· == slash) p
    if q.isEmpty then [slash] else lastElement q

/-- Everything before the last element, cleaned. -/
def parent (p : Bytes) : Bytes :=
  match Bytes.lastIndexOf slash p with
  | some i => clean (p.take (i + 1))
  | none => clean []

end Golden.Path
