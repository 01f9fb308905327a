/-
The numbers that geometry is done with.

Every geometric definition works for any `Scalar`.  The program computes with doubles, where
`<` and `==` are those of IEEE 754 (nothing compares with NaN, and `0 == -0`).  The same
definitions over a field of exact numbers say what the computation approximates.
-/
import Atelier.Decimal.Binary

namespace Atelier

/-- Numbers with the arithmetic and the trigonometry of plane geometry. -/
class Scalar (α : Type) extends Add α, Sub α, Mul α, Div α, Neg α, LT α, LE α, BEq α where
  decideLT : DecidableLT α
  decideLE : DecidableLE α
  /-- The number with the value of a natural number. -/
  ofNat : Nat → α
  abs : α → α
  sin : α → α
  cos : α → α
  /-- The angle of the point `(x, y)` around the origin, given `y` and then `x`. -/
  atan2 : α → α → α
  /-- The length of the vector with the given coordinates. -/
  hypot : α → α → α
  /-- The angle of one full turn, 2π. -/
  turn : α
  /-- The remainder of Euclidean division. -/
  remainder : α → α → α

namespace Scalar

variable {α : Type} [Scalar α]

instance instDecidableLT : DecidableLT α := decideLT

instance instDecidableLE : DecidableLE α := decideLE

/-- Zero. -/
def zero : α := ofNat 0

/-- One. -/
def one : α := ofNat 1

/-- Half of a number. -/
def half (x : α) : α := x / ofNat 2

/-- The smaller of two numbers, the second of two equal ones, and of a number and NaN the
number. -/
def least (x y : α) : α :=
  if x < y then x else if y == y then y else x

/-- The larger of two numbers, the second of two equal ones, and of a number and NaN the
number. -/
def greatest (x y : α) : α :=
  if y < x then x else if y == y then y else x

/-- The nearest number from zero to one. -/
def clampUnit (x : α) : α :=
  if x < zero then zero else if one < x then one else x

end Scalar

/-- Doubles.  The sine and cosine of a zero angle are exact, so that without a rotation no
rounding takes place. -/
instance : Scalar Float where
  decideLT := Float.decLt
  decideLE := Float.decLe
  ofNat := Float.ofNat
  abs := Float.abs
  sin x := if x == 0 then x else Float.sin x
  cos x := if x == 0 then 1 else Float.cos x
  atan2 := Float.atan2
  hypot := hypotenuse
  turn := Float.ofBits 0x401921FB54442D18
  remainder := euclideanRemainder

end Atelier
