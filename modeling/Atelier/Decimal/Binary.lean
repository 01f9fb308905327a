/-
Finite doubles as exact integers times powers of two.

Every finite double is `± significand * 2 ^ exponent`, so digit selection, remainders and
lengths are computed exactly on natural numbers and rounded once at the end.
-/

namespace Atelier

/-- The non-negative number `significand * 2 ^ exponent`. -/
structure Binary where
  significand : Nat
  exponent : Int
deriving DecidableEq, Repr

namespace Binary

open Float.Model

/-- The magnitude of a finite double.  The infinities and NaN have none; they give zero. -/
def ofFloat (x : Float) : Binary :=
  match x.toModel.unpack with
  | .finite _ m e _ => ⟨m, e⟩
  | _ => ⟨0, 0⟩

/-- The double nearest to a magnitude, a tie going to the even significand.  It is infinite
past the largest double. -/
def toFloat (b : Binary) : Float :=
  if b.significand = 0 then 0
  else .ofModel (.pack (.round .binary64 .positive b.significand b.exponent))

/-- The significand of the same number over the exponent `q`, which is at most its own. -/
def scaled (b : Binary) (q : Int) : Nat :=
  b.significand <<< (b.exponent - q).toNat

/-- The double nearest to the square root of a magnitude. -/
def sqrt (b : Binary) : Float :=
  if h : b.significand = 0 then 0
  else .ofModel (.pack (.sqrt .binary64 (.finite .positive b.significand b.exponent
    (Nat.pos_of_ne_zero h))))

end Binary

/-! ## Operations on doubles that are exact before their one rounding -/

/-- Whether the sign bit is set, as it is in `-0`. -/
def signBit (x : Float) : Bool :=
  x.toBits >>> 63 == 1

/-- The remainder of `x` on division by `y`, with the sign of `x`.  It is always exact. -/
def remainder (x y : Float) : Float :=
  if x.isNaN || y.isNaN || x.isInf || y == 0 then 0 / 0
  else if y.isInf then x
  else
    let a := Binary.ofFloat x
    let b := Binary.ofFloat y
    let q := min a.exponent b.exponent
    let r := Binary.toFloat ⟨a.scaled q % b.scaled q, q⟩
    if signBit x then -r else r

/-- The remainder of `x` on division by `y` that is not negative, up to rounding: a small
negative remainder can round up to `|y|` itself. -/
def euclideanRemainder (x y : Float) : Float :=
  let r := remainder x y
  if r < 0 then r + y.abs else r

/-- The length of the hypotenuse over two legs, rounded once. -/
def hypotenuse (x y : Float) : Float :=
  if x.isInf || y.isInf then 1 / 0
  else if x.isNaN || y.isNaN then 0 / 0
  else
    let a := Binary.ofFloat x
    let b := Binary.ofFloat y
    let q := min a.exponent b.exponent
    Binary.sqrt ⟨a.scaled q * a.scaled q + b.scaled q * b.scaled q, 2 * q⟩

end Atelier
