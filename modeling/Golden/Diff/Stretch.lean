import Golden.Diff.Script

/-!
# Stretches of a script

A script is read as alternating stretches of kept and of changed elements. Before they are shown,
changes that only a few kept elements separate are drawn together, and elements that turn out equal
at the ends of a changed stretch are given back to the kept ones beside it.
-/

namespace Golden.Diff

/-- Adjacent steps of a script. A changed stretch may also hold kept elements, which are then shown
as removed and inserted. -/
structure Stretch where
  same : Nat := 0
  removed : Nat := 0
  inserted : Nat := 0
deriving DecidableEq, Repr

namespace Stretch

/-- Is nothing changed? -/
def isEqual (g : Stretch) : Bool := g.removed = 0 && g.inserted = 0

/-- The elements of the first sequence. -/
def width (g : Stretch) : Nat := g.same + g.removed

/-- The elements of the second sequence. -/
def height (g : Stretch) : Nat := g.same + g.inserted

/-- Two stretches as one. -/
def append (g h : Stretch) : Stretch := ⟨g.same + h.same, g.removed + h.removed, g.inserted + h.inserted⟩

instance : Append Stretch := ⟨append⟩

/-- A single step. -/
def ofEdit : Edit → Stretch
  | .keep => ⟨1, 0, 0⟩
  | .remove => ⟨0, 1, 0⟩
  | .insert => ⟨0, 0, 1⟩

/-- Adds a step in front of stretches. -/
def consEdit (e : Edit) : List Stretch → List Stretch
  | [] => [ofEdit e]
  | g :: gs => if g.isEqual == (ofEdit e).isEqual then (ofEdit e ++ g) :: gs else ofEdit e :: g :: gs

/-- The stretches of a script. -/
def ofScript (s : Script) : List Stretch := s.foldr consEdit []

/-- Adds a stretch behind others, given with the last one first. It is drawn together with the change
before it if the two both remove and insert something and few kept elements separate them. -/
def snoc (few : Nat) (done : List Stretch) (g : Stretch) : List Stretch :=
  match done with
  | c :: p :: rest =>
    if !g.isEqual && (p.removed > 0 || g.removed > 0) && (p.inserted > 0 || g.inserted > 0)
        && c.same ≤ few then
      (p ++ c ++ g) :: rest
    else g :: c :: p :: rest
  | _ => g :: done

/-- Draws changes together. -/
def drawTogether (few : Nat) (gs : List Stretch) : List Stretch := (gs.foldl (snoc few) []).reverse

/-- Adds kept elements to the next stretch, or as a last one. -/
def pass (n : Nat) : List Stretch → List Stretch
  | [] => if n = 0 then [] else [⟨n, 0, 0⟩]
  | g :: gs => { g with same := g.same + n } :: gs

variable {α : Type} [BEq α]

/-- How many elements at the start are equal. -/
def commonStart : List α → List α → Nat
  | a :: as, b :: bs => if a == b then commonStart as bs + 1 else 0
  | _, _ => 0

/-- Gives equal elements at the ends of changes to the stretches beside them. `done` holds the
stretches before, the last one first, and `xs` and `ys` are what is left of the sequences. -/
def giveBack : Nat → List Stretch → List α → List α → List Stretch → List Stretch
  | 0, done, _, _, gs => done.reverse ++ gs
  | _, done, _, _, [] => done.reverse
  | n + 1, done, xs, ys, g :: gs =>
    if g.isEqual then giveBack n (g :: done) (xs.drop g.same) (ys.drop g.same) gs
    else
      let left := xs.take g.width
      let right := ys.take g.height
      let lead := commonStart left right
      let trail := commonStart left.reverse right.reverse
      let g' : Stretch := if lead + trail > 0 then
          ⟨0, g.width - (lead + trail), g.height - (lead + trail)⟩
        else g
      giveBack n (g' :: pass lead done) (xs.drop (lead + g'.width)) (ys.drop (lead + g'.height))
        (pass trail gs)

end Stretch

/-- The stretches in which the difference of two sequences is shown. Changes are drawn together over
up to `few` kept elements. -/
def stretches {α : Type} [BEq α] (few : Nat) (xs ys : List α) : List Stretch :=
  let gs := Stretch.drawTogether few (Stretch.ofScript (Script.between xs.toArray ys.toArray))
  Stretch.giveBack (gs.length + 1) [] xs ys gs

end Golden.Diff
