/-
Numbers of JSON texts.

The double that is read for a numeral is not always the nearest one: the digits are read into 64
bits, that number is rounded to a double, and multiplying or dividing by a power of ten rounds
once more.
-/
import Atelier.Decimal.Layout
import Atelier.Decimal.Literal

namespace Atelier.Json

/-- A number of a JSON text. -/
inductive Number where
  /-- A natural number below `2 ^ 64`. -/
  | natural (n : Nat)
  /-- The integer `-n`, where `n` is positive and at most `2 ^ 63`. -/
  | negative (n : Nat)
  /-- Any other number, a whole number too large for those and `-0` included. -/
  | float (x : Float)
deriving DecidableEq

/-- Numbers in JSON text: a decimal point always, an exponent outside `1e-5` to `1e16`. -/
def numberStyle : NumberStyle where
  tie := .even
  positional power := -5 ≤ power && power ≤ 15
  whole := ['.', '0']
  plus := ['+']

namespace Number

/-- The double nearest to a number. -/
def toFloat : Number → Float
  | natural n => Float.ofNat n
  | negative n => -Float.ofNat n
  | float x => x

/-- The text of a number. -/
def text : Number → List Char
  | natural n => naturalText n
  | negative n => '-' :: naturalText n
  | float x => numberStyle.finite x

/-! ## Digits as doubles -/

/-- The number that digits after those of `n` make, as long as it fits into 64 bits, and the
digits from the first that does not. -/
def takeDigits : Nat → List Char → Nat × List Char
  | n, [] => (n, [])
  | n, c :: rest =>
    let longer := 10 * n + (c.toNat - '0'.toNat)
    if longer < UInt64.size then takeDigits longer rest else (n, c :: rest)

/-- The largest power of ten that is a finite double. -/
def maxPower : Nat := 308

/-- The double nearest to a power of ten. -/
def powerOfTen (n : Nat) : Float :=
  Float.ofScientific 1 false n

/-- A double divided by the largest power of ten `n` times, or until nothing is left of it. -/
def lowered : Nat → Float → Float
  | 0, x => x
  | n + 1, x => if x == 0 then x else lowered n (x / powerOfTen maxPower)

/-- The double for `n * 10 ^ exponent`: that of `n` times or over that of a power of ten.  Past
the largest double it is infinite. -/
def scaled (n : Nat) : Int → Float
  | .ofNat power =>
    if power ≤ maxPower then Float.ofNat n * powerOfTen power
    else if n = 0 then 0
    else 1 / 0
  | .negSucc power =>
    lowered (power / maxPower) (Float.ofNat n) / powerOfTen (power % maxPower + 1)

/-- The double for a numeral.  Digits that no longer fit into 64 bits count as zeros. -/
def double (numeral : Numeral) : Float :=
  let (whole, beyond) := takeDigits 0 numeral.whole
  let (n, beyond') := takeDigits whole (numeral.fraction.getD [])
  let magnitude := scaled n (numeral.exponent + beyond.length + beyond'.length)
  if numeral.negative then -magnitude else magnitude

end Number

end Atelier.Json
