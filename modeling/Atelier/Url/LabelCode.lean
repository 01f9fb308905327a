/-
The code by which a label with letters outside ASCII is written in ASCII: its ASCII characters,
and behind a hyphen numbers that say which other letters stand where.

The letters are listed in the order of their code points.  A number says how many places are
passed over since the last letter, where the places of a letter come before those of the next.
-/
import Atelier.Text.Digits

namespace Atelier.Url.LabelCode

/-! ## Numbers -/

/-- A digit of the code: a letter, or for 26 and more a decimal digit. -/
def digit (n : Nat) : Char :=
  if n < 26 then Char.ofNat ('a'.toNat + n) else Char.ofNat ('0'.toNat + (n - 26))

/-- How far a digit at position `k` may go before the number ends with it. -/
def threshold (bias k : Nat) : Nat :=
  if k ≤ bias + 1 then 1 else min (k - bias) 26

theorem one_le_threshold (bias k : Nat) : 1 ≤ threshold bias k := by
  unfold threshold
  split <;> omega

/-- A number in digits of falling weight, the first at position `k`. -/
def number (bias k n : Nat) : List Char :=
  if n < threshold bias k then [digit n]
  else
    let left := n - threshold bias k
    let size := 36 - threshold bias k
    digit (threshold bias k + left % size) :: number bias (k + 36) (left / size)
termination_by n
decreasing_by
  have := one_le_threshold bias k
  have : (n - threshold bias k) / (36 - threshold bias k) ≤ n - threshold bias k :=
    Nat.div_le_self _ _
  omega

/-- The part of a bias that grows with the size of the numbers. -/
def spread (k delta : Nat) : Nat :=
  if delta ≤ 455 then k + 36 * delta / (delta + 38) else spread (k + 36) (delta / 35)
termination_by delta

/-- The bias after a number, where `count` letters are written so far. -/
def nextBias (delta count : Nat) (first : Bool) : Nat :=
  let delta := if first then delta / 700 else delta / 2
  spread 0 (delta + delta / count)

/-! ## Writing -/

/-- How far a code has got. -/
structure State where
  /-- The letters below this one are written. -/
  letter : Nat
  /-- The number to write at the next letter. -/
  delta : Nat
  bias : Nat
  /-- How many letters of the label are written. -/
  written : Nat
  code : List Char

/-- The code after one more character of the label, where `letter` is to be written. -/
def place (basic letter : Nat) (s : State) (c : Char) : State :=
  if c.toNat < letter then { s with delta := s.delta + 1 }
  else if c.toNat = letter then
    { s with
      delta := 0
      bias := nextBias s.delta (s.written + 1) (s.written = basic)
      written := s.written + 1
      code := s.code ++ number s.bias 36 s.delta }
  else s

/-- The code once a letter is written wherever it stands. -/
def placeAll (label : List Char) (basic : Nat) (s : State) (letter : Nat) : State :=
  let start := { s with delta := s.delta + (letter - s.letter) * (s.written + 1) }
  let done := label.foldl (place basic letter) start
  { done with letter := letter + 1, delta := done.delta + 1 }

/-- The code of a label. -/
def encode (label : List Char) : List Char :=
  let basic := label.filter (·.toNat < 0x80)
  let others := ((label.map Char.toNat).filter (0x80 ≤ ·)).eraseDups.mergeSort (· ≤ ·)
  let start : State :=
    ⟨0x80, 0, 72, basic.length, if basic.isEmpty then [] else basic ++ ['-']⟩
  (others.foldl (placeAll label basic.length) start).code

/-! ## Reading -/

/-- The value of a digit of the code. -/
def digitValue? (c : Char) : Option Nat :=
  if 'a' ≤ c ∧ c ≤ 'z' then some (c.toNat - 'a'.toNat)
  else if '0' ≤ c ∧ c ≤ '9' then some (c.toNat - '0'.toNat + 26)
  else none

/-- A code that is being read. -/
structure Reading where
  /-- The label so far. -/
  label : List Char
  /-- The code point of the last letter that was put into the label. -/
  letter : Nat
  /-- The place after that letter. -/
  place : Nat
  bias : Nat
  /-- The value of the digits so far of the number that is being read. -/
  number : Nat
  /-- What the next digit counts. -/
  weight : Nat
  /-- The position of the next digit. -/
  position : Nat

/-- A label of which the ASCII characters are known. -/
def Reading.start (basic : List Char) : Reading :=
  ⟨basic, 0x80, 0, 72, 0, 1, 36⟩

/-- The state at the end of a number, which puts a letter into the label. -/
def Reading.insert? (r : Reading) (number : Nat) : Option Reading :=
  let count := r.label.length + 1
  let letter := r.letter + (r.place + number) / count
  let place := (r.place + number) % count
  if letter.isValidChar then
    some {
      label := r.label.insertIdx place (Char.ofNat letter)
      letter
      place := place + 1
      bias := nextBias number count (r.place = 0)
      number := 0
      weight := 1
      position := 36 }
  else none

/-- The state after one more digit.  Numbers have at most 32 bits. -/
def Reading.step (r : Reading) (c : Char) : Option Reading := do
  let d ← digitValue? c
  let number := r.number + d * r.weight
  let bound := threshold r.bias r.position
  if UInt32.size ≤ r.place + number then none
  else if d < bound then r.insert? number
  else if UInt32.size ≤ r.weight * (36 - bound) then none
  else
    some { r with
      number, weight := r.weight * (36 - bound), position := r.position + 36 }

/-- The label that a code stands for. -/
def decode? (code : List Char) : Option (List Char) := do
  let (basic, numbers) :=
    match cutAtLast '-' code with
    | (some (c :: basic), numbers) => (c :: basic, numbers)
    | _ => ([], code)
  let r ← numbers.foldlM Reading.step (.start basic)
  if r.position = 36 then some r.label else none

end Atelier.Url.LabelCode
