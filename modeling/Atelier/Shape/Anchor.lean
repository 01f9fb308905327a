/-
Anchors: the eight places of a box that a pointer can drag, its corners and the middles of
its edges.
-/

namespace Atelier

/-- A place on the border of a box, named by its compass direction. -/
inductive Anchor where
  | northWest
  | north
  | northEast
  | east
  | southEast
  | south
  | southWest
  | west
deriving DecidableEq, Repr

namespace Anchor

/-- The anchors clockwise from the top left corner. -/
def all : List Anchor :=
  [northWest, north, northEast, east, southEast, south, southWest, west]

/-- The anchor at a place in `all`. -/
def ofIndex? (i : Nat) : Option Anchor :=
  all[i]?

/-- The anchor across the box. -/
def opposite : Anchor → Anchor
  | northWest => southEast
  | north => south
  | northEast => southWest
  | east => west
  | southEast => northWest
  | south => north
  | southWest => northEast
  | west => east

/-- Whether dragging the anchor moves the top edge. -/
def movesTop : Anchor → Bool
  | northWest | north | northEast => true
  | _ => false

/-- Whether dragging the anchor moves the bottom edge. -/
def movesBottom : Anchor → Bool
  | southWest | south | southEast => true
  | _ => false

/-- Whether dragging the anchor moves the left edge. -/
def movesLeft : Anchor → Bool
  | northWest | west | southWest => true
  | _ => false

/-- Whether dragging the anchor moves the right edge. -/
def movesRight : Anchor → Bool
  | northEast | east | southEast => true
  | _ => false

end Anchor

end Atelier
