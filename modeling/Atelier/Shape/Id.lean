/-
Identifiers of shapes: numbers of 128 bits, written as 32 hexadecimal digits in five groups.
-/
import Atelier.Text.Quoted
import Atelier.Json.Reader

namespace Atelier

/-- An identifier of 128 bits. -/
structure ShapeId where
  value : BitVec 128
deriving DecidableEq, Repr

namespace ShapeId

/-- The identifier with the value of a natural number, taken modulo `2 ^ 128`. -/
def ofNat (n : Nat) : ShapeId :=
  ⟨BitVec.ofNat 128 n⟩

/-- The 32 digits of an identifier. -/
def digits (id : ShapeId) : List Char :=
  let shown := hexText id.value.toNat
  List.replicate (32 - shown.length) '0' ++ shown

/-- The sizes of the groups that hyphens separate. -/
def groups : List Nat := [8, 4, 4, 4, 12]

/-- Digits split into groups of the given sizes, a hyphen between two groups. -/
def hyphenate : List Nat → List Char → List Char
  | [], digits => digits
  | [_], digits => digits
  | n :: sizes, digits => digits.take n ++ '-' :: hyphenate sizes (digits.drop n)

/-- The text of an identifier: its digits in lower case, in five groups. -/
def text (id : ShapeId) : String :=
  String.ofList (hyphenate groups id.digits)

/-- The digits of a text that has hyphens between its groups and nowhere else. -/
def unhyphenate? (text : List Char) : Option (List Char) :=
  let digits := text.filter (· ≠ '-')
  if digits.length = 32 ∧ hyphenate groups digits = text then some digits else none

/-- The digits of an identifier in a text: alone, in groups, in groups between braces, or in
groups behind the name of the scheme in any case of letters. -/
def textDigits? (text : List Char) : Option (List Char) :=
  if text.length = 32 then some text
  else if text.length = 36 then unhyphenate? text
  else if text.length = 38 ∧ text.head? = some '\x7b' ∧ text.getLast? = some '\x7d' then
    unhyphenate? ((text.drop 1).take 36)
  else if text.length = 45 ∧ lowerAscii (text.take 9) = "urn:uuid:".toList then
    unhyphenate? (text.drop 9)
  else none

/-- The identifier that a text names. -/
def parse? (text : String) : Option ShapeId := do
  let digits ← textDigits? text.toList
  let n ← valueIn? 16 digits
  some (ofNat n)

end ShapeId

end Atelier
