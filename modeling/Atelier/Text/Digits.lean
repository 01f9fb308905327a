/-
Numbers in digits, and texts in pieces.
-/

namespace Atelier

/-- The value of a digit in base sixteen. -/
def hexDigit? (c : Char) : Option Nat :=
  if '0' ≤ c ∧ c ≤ '9' then some (c.toNat - '0'.toNat)
  else if 'a' ≤ c ∧ c ≤ 'f' then some (c.toNat - 'a'.toNat + 10)
  else if 'A' ≤ c ∧ c ≤ 'F' then some (c.toNat - 'A'.toNat + 10)
  else none

/-- The value of digits in a base up to sixteen. -/
def valueIn? (base : Nat) (digits : List Char) : Option Nat :=
  digits.foldlM (fun n c => do
    let d ← hexDigit? c
    if d < base then some (base * n + d) else none) 0

/-- The digits of `n` in base sixteen, letters in lower case. -/
def hexText (n : Nat) : List Char :=
  Nat.toDigits 16 n

/-- The pieces of a text between the characters that satisfy `separates`. -/
def pieces (separates : Char → Bool) : List Char → List (List Char)
  | [] => [[]]
  | c :: rest =>
    if separates c then [] :: pieces separates rest
    else
      match pieces separates rest with
      | [] => [[c]]
      | piece :: others => (c :: piece) :: others

/-- What stands before the first `mark`, and what stands after it if it occurs. -/
def cutAt (mark : Char) : List Char → List Char × Option (List Char)
  | [] => ([], none)
  | c :: rest =>
    if c = mark then ([], some rest)
    else
      let (before, after) := cutAt mark rest
      (c :: before, after)

/-- What stands before the last `mark` if it occurs, and what stands after it. -/
def cutAtLast (mark : Char) (text : List Char) : Option (List Char) × List Char :=
  match cutAt mark text.reverse with
  | (after, some before) => (some before.reverse, after.reverse)
  | (all, none) => (none, all.reverse)

end Atelier
