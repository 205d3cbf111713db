/-!
# Edit scripts

An edit script turns one sequence into another: every step keeps an element of both, removes one of
the first or inserts one of the second. `Script.between` finds a good script, not always a shortest
one, in time linear in the length of the sequences.

Think of a script as a path through the grid of pairs of positions, from the corner `(0, 0)` to the
opposite corner. Two paths grow from the two corners in turns. In each turn a path searches the
diagonal through its frontier for a pair of equal elements, nearest first; when it finds one, it goes
there and on along equal pairs. Otherwise, only the frontier moves on. A budget bounds the number of
unequal pairs that are looked at; when it is used up or the frontiers meet, the paths are joined.
-/

namespace Golden.Diff

/-- One step of a script. -/
inductive Edit where
  | keep
  | remove
  | insert
deriving DecidableEq, Repr

/-- A script from first to last step. -/
abbrev Script := List Edit

namespace Script

/-- How many steps change something. -/
def distance (s : Script) : Nat := s.countP (· != .keep)

end Script

/-- A pair of positions in the two sequences. -/
structure Point where
  x : Int
  y : Int
deriving DecidableEq, Repr

/-- The point that a step leads to. -/
def Point.after (p : Point) : Edit → Point
  | .keep => ⟨p.x + 1, p.y + 1⟩
  | .remove => ⟨p.x + 1, p.y⟩
  | .insert => ⟨p.x, p.y + 1⟩

/-- The point that a step comes from. -/
def Point.before (p : Point) : Edit → Point
  | .keep => ⟨p.x - 1, p.y - 1⟩
  | .remove => ⟨p.x - 1, p.y⟩
  | .insert => ⟨p.x, p.y - 1⟩

/-- The two paths and how far each has searched. -/
structure Search where
  /-- Where the path from the start ends. -/
  front : Point
  /-- The steps from the start, the last one first. -/
  fromStart : List Edit
  /-- Where the path to the end begins. -/
  back : Point
  /-- The steps to the end, in order. -/
  toEnd : List Edit
  frontFrontier : Point
  backFrontier : Point
  /-- How many more unequal pairs may be looked at. -/
  budget : Nat

namespace Search

variable (same : Point → Bool)

/-- The offsets along a diagonal by distance from its middle: `0, -1, 1, -2, 2, …`. -/
def zigzag (i : Nat) : Int := if i % 2 = 0 then (i / 2 : Nat) else -((i / 2 : Nat) : Int) - 1

/-! ## The path from the start -/

/-- Adds a step to the path from the start. -/
def extendFront (s : Search) (e : Edit) : Search :=
  { s with front := s.front.after e, fromStart := e :: s.fromStart }

/-- Leads the path from the start to a point, within a number of steps. -/
def leadFront : Nat → Point → Search → Search
  | 0, _, s => s
  | n + 1, p, s =>
    let dx := p.x - s.front.x
    let dy := p.y - s.front.y
    if 0 < dx && 0 < dy then
      leadFront n p (s.extendFront (if same s.front then .keep else if dx ≥ dy then .remove else .insert))
    else if 0 < dx then leadFront n p (s.extendFront .remove)
    else if 0 < dy then leadFront n p (s.extendFront .insert)
    else s

/-- Leads the path from the start along equal pairs, within a number of steps. -/
def followFront : Nat → Search → Search
  | 0, s => s
  | n + 1, s =>
    if s.front.x < s.back.x && s.front.y < s.back.y && same s.front then
      followFront n (s.extendFront .keep)
    else s

/-- Steps from one point to another. -/
def gap (p q : Point) : Nat := (q.x - p.x).toNat + (q.y - p.y).toNat

/-- Leads the path from the start to an equal pair and on from there. -/
def reachFront (s : Search) (p : Point) : Search :=
  let s := (s.leadFront same (gap s.front p) p).extendFront .keep
  let s := s.followFront same (gap s.front s.back)
  { s with frontFrontier := s.front }

/-- Searches the diagonal of the front frontier from the `i`-th offset on. -/
def scanFront : Nat → Nat → Bool → Bool → Search → Search
  | 0, _, _, _, s => s
  | n + 1, i, topDone, bottomDone, s =>
    if (topDone && bottomDone) || s.budget = 0 then s
    else
      let z := zigzag i
      let p : Point := ⟨s.frontFrontier.x + z, s.frontFrontier.y - z⟩
      if p.x ≥ s.back.x || p.y < s.front.y then scanFront n (i + 1) true bottomDone s
      else if p.y ≥ s.back.y || p.x < s.front.x then scanFront n (i + 1) topDone true s
      else if same p then s.reachFront same p
      else scanFront n (i + 1) topDone bottomDone { s with budget := s.budget - 1 }

/-- Moves the front frontier on, along the longer side of what is left. -/
def pushFront (s : Search) : Search :=
  let f := s.frontFrontier
  { s with frontFrontier :=
      if s.back.x - f.x ≥ s.back.y - f.y then ⟨f.x + 1, f.y⟩ else ⟨f.x, f.y + 1⟩ }

/-! ## The path to the end -/

/-- Adds a step to the path to the end. -/
def extendBack (s : Search) (e : Edit) : Search :=
  { s with back := s.back.before e, toEnd := e :: s.toEnd }

/-- Is the pair before the point equal? -/
def sameBefore (p : Point) : Bool := same (p.before .keep)

/-- Leads the path to the end back to a point, within a number of steps. -/
def leadBack : Nat → Point → Search → Search
  | 0, _, s => s
  | n + 1, p, s =>
    let dx := s.back.x - p.x
    let dy := s.back.y - p.y
    if 0 < dx && 0 < dy then
      leadBack n p
        (s.extendBack (if sameBefore same s.back then .keep else if dy ≥ dx then .insert else .remove))
    else if 0 < dx then leadBack n p (s.extendBack .remove)
    else if 0 < dy then leadBack n p (s.extendBack .insert)
    else s

/-- Leads the path to the end back along equal pairs, within a number of steps. -/
def followBack : Nat → Search → Search
  | 0, s => s
  | n + 1, s =>
    if s.front.x < s.back.x && s.front.y < s.back.y && sameBefore same s.back then
      followBack n (s.extendBack .keep)
    else s

/-- Leads the path to the end back to an equal pair and on from there. -/
def reachBack (s : Search) (p : Point) : Search :=
  let s := (s.leadBack same (gap p s.back) p).extendBack .keep
  let s := s.followBack same (gap s.front s.back)
  { s with backFrontier := s.back }

/-- Searches the diagonal of the back frontier from the `i`-th offset on. -/
def scanBack : Nat → Nat → Bool → Bool → Search → Search
  | 0, _, _, _, s => s
  | n + 1, i, bottomDone, topDone, s =>
    if (bottomDone && topDone) || s.budget = 0 then s
    else
      let z := zigzag i
      let p : Point := ⟨s.backFrontier.x - z, s.backFrontier.y + z⟩
      if s.front.x ≥ p.x || s.back.y < p.y then scanBack n (i + 1) true topDone s
      else if s.front.y ≥ p.y || s.back.x < p.x then scanBack n (i + 1) bottomDone true s
      else if sameBefore same p then s.reachBack same p
      else scanBack n (i + 1) bottomDone topDone { s with budget := s.budget - 1 }

/-- Moves the back frontier on, along the longer side of what is left. -/
def pushBack (s : Search) : Search :=
  let f := s.backFrontier
  { s with backFrontier :=
      if f.x - s.front.x ≥ f.y - s.front.y then ⟨f.x - 1, f.y⟩ else ⟨f.x, f.y - 1⟩ }

/-! ## The whole search -/

/-- Have the frontiers met, or is the budget used up? -/
def isOver (s : Search) : Bool :=
  s.frontFrontier.x ≥ s.backFrontier.x || s.frontFrontier.y ≥ s.backFrontier.y || s.budget = 0

/-- Searches from both ends in turns; each turn looks at up to `width` offsets. -/
def alternate (width : Nat) : Nat → Search → Search
  | 0, s => s
  | n + 1, s =>
    if s.isOver then s
    else
      let s := (s.scanFront same width 0 false false).pushFront
      if s.isOver then s
      else alternate width n (s.scanBack same width 0 false false).pushBack

/-- The script of the two paths after they have been joined. -/
def finish (s : Search) : Script :=
  let s := s.leadFront same (gap s.front s.back) s.back
  s.fromStart.reverse ++ s.toEnd

/-- The search before its first turn. -/
def start (nx ny : Nat) : Search :=
  let first : Point := ⟨0, 0⟩
  let last : Point := ⟨nx, ny⟩
  { front := first, fromStart := [], back := last, toEnd := [],
    frontFrontier := first, backFrontier := last, budget := 4 * (nx + ny) }

end Search

/-- A script that turns the first sequence into the second. -/
def Script.between {α : Type} [BEq α] (xs ys : Array α) : Script :=
  let same (p : Point) : Bool :=
    match xs[p.x.toNat]?, ys[p.y.toNat]? with
    | some a, some b => a == b
    | _, _ => false
  let size := xs.size + ys.size
  ((Search.start xs.size ys.size).alternate same (2 * size + 4) (size + 1)).finish same

end Golden.Diff
