/-
Numerals as text: splitting one into its parts and reading its value.

`Numeral.scan` accepts the widest grammar in use here; each format states which of the parts
it requires.
-/
import Atelier.Decimal.Binary

namespace Atelier

/-- The value of a run of decimal digits. -/
def digitsValue (digits : List Char) : Nat :=
  digits.foldl (fun n c => 10 * n + (c.toNat - '0'.toNat)) 0

/-- The parts of a numeral: a sign, digits, digits after a point, and a power of ten. -/
structure Numeral where
  sign : Option Char
  whole : List Char
  /-- The digits after the point, if there is a point. -/
  fraction : Option (List Char)
  /-- Whether the power is negative, and its digits, if there is a power. -/
  power : Option (Bool × List Char)
deriving DecidableEq, Repr

namespace Numeral

/-- A leading sign and what follows it. -/
def splitSign : List Char → Option Char × List Char
  | '+' :: rest => (some '+', rest)
  | '-' :: rest => (some '-', rest)
  | rest => (none, rest)

/-- The power of ten that ends a numeral. -/
def scanPower : List Char → Option (Option (Bool × List Char))
  | [] => some none
  | c :: rest =>
    let (sign, digits) := splitSign rest
    if (c = 'e' || c = 'E') && !digits.isEmpty && digits.all Char.isDigit then
      some (some (sign = some '-', digits))
    else none

/-- The parts of a text that is a sign, digits, a point with digits and a power of ten, each
part optional and any run of digits before the power possibly empty. -/
def scan (text : List Char) : Option Numeral := do
  let (sign, rest) := splitSign text
  let whole := rest.takeWhile Char.isDigit
  match rest.dropWhile Char.isDigit with
  | '.' :: rest =>
    let power ← scanPower (rest.dropWhile Char.isDigit)
    some ⟨sign, whole, some (rest.takeWhile Char.isDigit), power⟩
  | rest =>
    let power ← scanPower rest
    some ⟨sign, whole, none, power⟩

/-- Whether the numeral is written with a minus sign. -/
def negative (x : Numeral) : Bool :=
  x.sign = some '-'

/-- The digits before and after the point as one number. -/
def coefficient (x : Numeral) : Nat :=
  digitsValue (x.whole ++ x.fraction.getD [])

/-- The power of ten that the coefficient counts. -/
def exponent (x : Numeral) : Int :=
  let power : Int :=
    match x.power with
    | none => 0
    | some (true, digits) => -(digitsValue digits : Int)
    | some (false, digits) => digitsValue digits
  power - (x.fraction.getD []).length

/-- The double nearest to the numeral's value, infinite if that is too large. -/
def toFloat (x : Numeral) : Float :=
  let magnitude := Float.ofScientific x.coefficient (x.exponent < 0) x.exponent.natAbs
  if x.negative then -magnitude else magnitude

end Numeral

/-- Lower case for the ASCII letters, any other character as it is. -/
def lowerAscii (text : List Char) : List Char :=
  text.map Char.toLower

/-- The double a text names: a numeral with at least one digit, or in any case of letters
`inf`, `infinity` or `nan`, each with an optional sign. -/
def readFloat? (text : List Char) : Option Float :=
  let (sign, rest) := Numeral.splitSign text
  let signed (x : Float) : Float := if sign = some '-' then -x else x
  let word := lowerAscii rest
  if word = "inf".toList || word = "infinity".toList then some (signed (1 / 0))
  else if word = "nan".toList then some (0 / 0)
  else do
    let numeral ← Numeral.scan text
    if numeral.whole.isEmpty && (numeral.fraction.getD []).isEmpty then none
    else some numeral.toFloat

/-- The natural number below `bound` that a text names: digits, after an optional plus sign. -/
def readUnsigned? (bound : Nat) (text : List Char) : Option Nat :=
  let digits :=
    match text with
    | '+' :: rest => rest
    | rest => rest
  if digits.isEmpty || !digits.all Char.isDigit then none
  else
    let n := digitsValue digits
    if n < bound then some n else none

end Atelier
