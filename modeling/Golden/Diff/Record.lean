import Golden.Diff.Stretch
import Golden.Text.Number

/-!
# Records of a difference

A difference is shown as records: chunks of elements that are unchanged, removed or inserted, and
omissions that only count what they leave out. Unchanged elements are shown near changes only, and
after a number of changed records everything else is left out.
-/

namespace Golden.Diff

/-- What a record says about its elements. -/
inductive Mark where
  | unchanged
  | removed
  | inserted
deriving DecidableEq, Repr

/-- A record: a chunk of elements, or an omission with the numbers of elements left out. -/
inductive Record (α : Type) where
  | shown (mark : Mark) (items : List α)
  | omitted (counts : Stretch)
deriving DecidableEq, Repr

/-- How many chunks of unchanged elements are shown on each side of a change. -/
def contextChunks : Nat := 2

/-- How many changed records are shown before the rest is left out. -/
def maxChanges : Nat := 32

section

variable {α : Type}

/-- Cuts elements into chunks of a positive size. -/
def chunksOf (size : Nat) : Nat → List α → List (List α)
  | 0, _ => []
  | n + 1, xs => if xs.isEmpty then [] else xs.take size :: chunksOf size n (xs.drop size)

/-- The records that show elements. -/
def showItems (size : Nat) (mark : Mark) (xs : List α) : List (Record α) :=
  (chunksOf size xs.length xs).map (.shown mark)

/-- The records of an unchanged stretch; at the ends of the sequences only one side has a change. -/
def showEqual (size : Nat) (isFirst isLast : Bool) (xs : List α) : List (Record α) :=
  let n := xs.length
  let context := size * contextChunks
  let low := if isFirst then 0 else min n context
  let high := if isLast then 0 else min (n - low) context
  let high := if n - (low + high) ≤ size then n - low else high
  showItems size .unchanged (xs.take low)
    ++ (if n > low + high then [.omitted ⟨n - (low + high), 0, 0⟩] else [])
    ++ showItems size .unchanged (xs.drop (n - high))

/-- Adds an omission behind records; it joins one that is already there. -/
def addOmission (rs : List (Record α)) (counts : Stretch) : List (Record α) :=
  if counts = {} then rs
  else
    match rs.getLast? with
    | some (.omitted earlier) => rs.dropLast ++ [.omitted (earlier ++ counts)]
    | _ => rs ++ [.omitted counts]

/-- The records of stretches, of which the first one may stand at the start of the sequences, and the
counts of what is left out at the end. `changes` is the number of changed records so far. -/
def recordsFrom (size : Nat) (isFirst : Bool) (changes : Nat) (xs ys : List α) :
    List Stretch → List (Record α) × Stretch
  | [] => ([], {})
  | g :: gs =>
    if changes ≥ maxChanges then ([], (g :: gs).foldl (· ++ ·) {})
    else if g.isEqual then
      let (rs, left) := recordsFrom size false changes (xs.drop g.same) (ys.drop g.same) gs
      (showEqual size isFirst gs.isEmpty (xs.take g.same) ++ rs, left)
    else
      let own := showItems size .removed (xs.take g.width) ++ showItems size .inserted (ys.take g.height)
      let (rs, left) :=
        recordsFrom size false (changes + own.length) (xs.drop g.width) (ys.drop g.height) gs
      (own ++ rs, left)

/-- The records that show how two sequences differ, in chunks of a positive size. -/
def records [BEq α] (size : Nat) (xs ys : List α) : List (Record α) :=
  let (rs, left) := recordsFrom size true 0 xs ys (stretches (size / 4) xs ys)
  addOmission rs left

end

/-! ## Texts of omissions -/

/-- The words for the numbers that are not zero. -/
def Stretch.counts (g : Stretch) : List Bytes :=
  [(g.same, utf8 "identical"), (g.removed, utf8 "removed"), (g.inserted, utf8 "inserted")].filterMap
    fun (n, label) => if n > 0 then some (decimal n ++ " " ++ label) else none

/-- Counts in an English list. -/
def englishList : List Bytes → Bytes
  | [] => []
  | [a] => a
  | [a, b] => a ++ " and " ++ b
  | parts => Bytes.join ", " parts.dropLast ++ ", and " ++ parts.getLastD []

/-- What an omission leaves out, counted in elements with the given name. -/
def Stretch.description (name : Bytes) (g : Stretch) : Bytes :=
  englishList g.counts ++ " " ++ (if g.same + g.removed + g.inserted > 1 then name ++ "s" else name)

end Golden.Diff
