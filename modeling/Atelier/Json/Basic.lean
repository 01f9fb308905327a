/-
JSON values.

Members of an object keep the order they are written in, repeated keys included.  A text can
follow the grammar and still denote nothing: a number past the largest double, an escaped
surrogate without its partner, containers nested too deeply.  Such a part is `unreadable`.
A reader that looks at it fails; one that passes over it does not notice.
-/
import Atelier.Json.Number

namespace Atelier

/-- A JSON value. -/
inductive Json where
  | null
  | bool (b : Bool)
  | num (n : Json.Number)
  | str (s : String)
  | arr (items : List Json)
  | obj (members : List (String × Json))
  /-- A part that follows the grammar and denotes nothing. -/
  | unreadable

namespace Json

instance : Inhabited Json := ⟨.null⟩

/-- The value of a double; the infinities and NaN have none and are `null`. -/
def ofFloat (x : Float) : Json :=
  if x.isFinite then .num (.float x) else .null

/-- The value of a natural number below `2 ^ 64`. -/
def ofNat (n : Nat) : Json :=
  .num (.natural n)

/-- The value of a list of texts. -/
def ofStrings (texts : List String) : Json :=
  .arr (texts.map .str)

/-- The value of a numeral with the given sign, digits, and whether it has a point or a power
of ten.  Past the largest double there is none. -/
def Number.ofNumeral (numeral : Numeral) : Json :=
  let n := digitsValue numeral.whole
  let plain := numeral.fraction.isNone && numeral.power.isNone
  if plain && !numeral.negative && n < UInt64.size then .num (.natural n)
  else if plain && numeral.negative && n ≠ 0 && n ≤ UInt64.size / 2 then .num (.negative n)
  else
    let x := double numeral
    if x.isFinite then .num (.float x) else .unreadable

/-- The value of a number's text: digits without a leading zero after an optional minus sign,
then optionally a point with digits and a power of ten. -/
def Number.read? (text : List Char) : Option Json := do
  let numeral ← Numeral.scan text
  let leadingZero := numeral.whole.length > 1 && numeral.whole.head? = some '0'
  if numeral.sign = some '+' || numeral.whole.isEmpty || leadingZero
      || numeral.fraction = some [] then none
  else some (Number.ofNumeral numeral)

end Json

end Atelier
