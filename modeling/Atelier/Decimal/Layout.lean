/-
Decimals and doubles as text.

A `NumberStyle` fixes everything a format decides about the text of a double; the digits
themselves come from `Decimal.shortest`.
-/
import Atelier.Decimal.Shortest

namespace Atelier

/-- The decimal digits of a natural number. -/
def naturalText (n : Nat) : List Char :=
  Nat.toDigits 10 n

/-- The decimal digits of an integer, behind a minus sign if it is negative. -/
def integerText : Int → List Char
  | .ofNat n => naturalText n
  | .negSucc n => '-' :: naturalText (n + 1)

namespace Decimal

/-- The digits with the point where it belongs, and no exponent.  A whole number is followed by
`whole`. -/
def positional (whole : List Char) (x : Decimal) : List Char :=
  let digits := naturalText x.coefficient
  let point := digits.length + x.exponent
  if 0 ≤ x.exponent then digits ++ List.replicate x.exponent.toNat '0' ++ whole
  else if 0 < point then digits.take point.toNat ++ '.' :: digits.drop point.toNat
  else '0' :: '.' :: (List.replicate (-point).toNat '0' ++ digits)

/-- One digit, the others after a point, and the power of ten; `plus` stands before a power
that is not negative. -/
def scientific (plus : List Char) (x : Decimal) : List Char :=
  let digits := naturalText x.coefficient
  let power := digits.length + x.exponent - 1
  let sign := if 0 ≤ power then plus else []
  let fraction := digits.drop 1
  digits.take 1 ++ (if fraction.isEmpty then [] else '.' :: fraction)
    ++ 'e' :: (sign ++ integerText power)

end Decimal

/-- What a format decides about the text of a finite double. -/
structure NumberStyle where
  /-- Which of two equally close shortest candidates is written. -/
  tie : Tie
  /-- The powers of ten of a leading digit that are written without an exponent. -/
  positional : Int → Bool
  /-- What follows a whole number written without an exponent. -/
  whole : List Char
  /-- What stands before an exponent that is not negative. -/
  plus : List Char

namespace NumberStyle

/-- The text of the magnitude of a finite double. -/
def magnitude (style : NumberStyle) (x : Float) : List Char :=
  let digits := Decimal.shortest style.tie (Binary.ofFloat x)
  let power := (naturalText digits.coefficient).length + digits.exponent - 1
  if style.positional power then digits.positional style.whole
  else digits.scientific style.plus

/-- The text of a finite double. -/
def finite (style : NumberStyle) (x : Float) : List Char :=
  if signBit x then '-' :: style.magnitude x else style.magnitude x

end NumberStyle

/-- Doubles written out in full: no exponent, and nothing after a whole number. -/
def plainStyle : NumberStyle where
  tie := .up
  positional _ := true
  whole := []
  plus := []

/-- The text of any double, finite ones in full. -/
def plainText (x : Float) : String :=
  if x.isNaN then "NaN"
  else if x.isInf then (if signBit x then "-inf" else "inf")
  else String.ofList (plainStyle.finite x)

/-- The text of any double to ten significant digits, magnitudes below `1e-7` as zero. -/
def shortText (x : Float) : String :=
  if x.isNaN || x.isInf then plainText x
  else if x.abs < 1e-7 then "0"
  else
    let digits := (Decimal.rounded 9 (Binary.ofFloat x)).scientific []
    String.ofList (if signBit x then '-' :: digits else digits)

end Atelier
