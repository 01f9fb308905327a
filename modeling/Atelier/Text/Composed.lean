/-
The composed form of a text: a letter and the marks on it are one character wherever there is such
a character.

Two texts that show the same letters with the same marks have the same composed form.  A text is
taken into parts, the marks on each letter are brought into the order of their classes, and then
each letter takes in the marks that it can.
-/
import Atelier.Text.MarkClass
import Atelier.Text.Parts

namespace Atelier

/-! ## Hangul -/

/-- The number of a syllable of Hangul: the syllables are ordered by their first consonant, their
vowel and their last consonant, of which there are 19, 21 and 27. -/
def syllable? (c : Char) : Option Nat :=
  if 0xAC00 ≤ c.toNat && c.toNat ≤ 0xD7A3 then some (c.toNat - 0xAC00) else none

/-- The letters of a syllable. -/
def syllableParts (n : Nat) : List Char :=
  let last := if n % 28 = 0 then [] else [Char.ofNat (0x11A7 + n % 28)]
  Char.ofNat (0x1100 + n / 588) :: Char.ofNat (0x1161 + n % 588 / 28) :: last

/-- The syllable of a consonant and a vowel, or of a syllable without a last consonant and one. -/
def joinHangul? (a b : Char) : Option Char :=
  if 0x1100 ≤ a.toNat && a.toNat ≤ 0x1112 && 0x1161 ≤ b.toNat && b.toNat ≤ 0x1175 then
    some (Char.ofNat (0xAC00 + ((a.toNat - 0x1100) * 21 + (b.toNat - 0x1161)) * 28))
  else if 0x11A8 ≤ b.toNat && b.toNat ≤ 0x11C2 then
    match syllable? a with
    | some n => if n % 28 = 0 then some (Char.ofNat (a.toNat + (b.toNat - 0x11A7))) else none
    | none => none
  else none

/-! ## Parts -/

/-- The parts of a character; most are their own only part. -/
def partsOf (c : Char) : List Char :=
  match syllable? c with
  | some n => syllableParts n
  | none => (partTable.image? c).getD [c]

/-- A text with a character before it, which, if it is a mark, moves behind the marks of lower
classes. -/
def putMark (c : Char) : List Char → List Char
  | [] => [c]
  | d :: rest =>
    if 0 < markClass d && markClass d < markClass c then d :: putMark c rest else c :: d :: rest

/-- A text in parts, with the marks on each letter in the order of their classes. -/
def inParts (text : List Char) : List Char :=
  (text.flatMap partsOf).foldr putMark []

/-! ## Composition -/

/-- The character that has the parts of one character and then another. -/
def joined? (a b : Char) : Option Char :=
  match joinHangul? a b with
  | some c => some c
  | none =>
    let parts := (partsOf a ++ [b]).map Char.toNat
    (partTable.runs.find? (·.image = parts)).map fun r => Char.ofNat r.first

/-- A text after a letter, where `marks` are the marks between them that the letter did not take
in, the last one first.  A mark reaches the letter only over marks of lower classes. -/
def composeAfter (letter : Char) (marks : List Char) : List Char → List Char
  | [] => letter :: marks.reverse
  | c :: rest =>
    match if marks.all (markClass · < markClass c) then joined? letter c else none with
    | some both => composeAfter both marks rest
    | none =>
      if markClass c = 0 then letter :: (marks.reverse ++ composeAfter c [] rest)
      else composeAfter letter (c :: marks) rest

/-- A text in parts with each letter and its marks as one character where there is one. -/
def compose : List Char → List Char
  | [] => []
  | c :: rest => if markClass c = 0 then composeAfter c [] rest else c :: compose rest

/-- The composed form of a text whose characters are composed each for itself. -/
def composed (text : List Char) : List Char :=
  compose (inParts text)

end Atelier
