/-
Decimal digits of a double.

`Decimal.shortest` finds the fewest digits that read back to the same double and, among
those, the closest.  `Decimal.rounded` takes a fixed number of digits from the exact value.
-/
import Atelier.Decimal.Binary

namespace Atelier

/-- The number `coefficient * 10 ^ exponent`. -/
structure Decimal where
  coefficient : Nat
  exponent : Int
deriving DecidableEq, Repr

/-- Where a value half-way between two candidates goes. -/
inductive Tie where
  /-- To the candidate with the larger magnitude. -/
  | up
  /-- To the candidate whose last digit is even. -/
  | even
deriving DecidableEq, Repr

/-- The number of decimal digits of `n`, none for zero. -/
def digitCount (n : Nat) : Nat :=
  if n = 0 then 0 else digitCount (n / 10) + 1

namespace Decimal

/-- A positive fraction, between two bounds over the same denominator: the reals that round
to a double, with the double itself. -/
structure Interval where
  low : Nat
  value : Nat
  high : Nat
  denominator : Nat
  /-- Whether the bounds themselves belong to the interval. -/
  closed : Bool

/-- The reals nearest to a double.  Half-way to a neighbour rounds to the even significand,
and below a power of two the neighbour is half as far. -/
def Interval.ofBinary (b : Binary) : Interval :=
  let m := b.significand
  let below := if m = 1 <<< 52 ∧ b.exponent > -1074 then 1 else 2
  let q := b.exponent - 2
  { low := (4 * m - below) <<< q.toNat
    value := (4 * m) <<< q.toNat
    high := (4 * m + 2) <<< q.toNat
    denominator := 1 <<< (-q).toNat
    closed := m % 2 = 0 }

/-- The exponent `k` with `10 ^ (k - 1) ≤ n / d < 10 ^ k`. -/
def magnitude (n d : Nat) : Int :=
  if d ≤ n then digitCount (n / d) else 1 - (digitCount ((d - 1) / n) : Int)

/-- A power of ten. -/
def tenTo (n : Nat) : Nat :=
  Nat.pow 10 n

/-- `n / d` over a grid of step `10 ^ g`, as numerator and denominator. -/
def onGrid (n d : Nat) (g : Int) : Nat × Nat :=
  (n * tenTo (-g).toNat, d * tenTo g.toNat)

/-- Whether `c` on the grid of step `10 ^ g` lies inside the interval. -/
def Interval.inside (i : Interval) (g : Int) (c : Nat) : Bool :=
  let d := i.denominator * tenTo g.toNat
  let scale := tenTo (-g).toNat
  if i.closed then i.low * scale ≤ c * d && c * d ≤ i.high * scale
  else i.low * scale < c * d && c * d < i.high * scale

/-- The candidate on the grid of step `10 ^ g` that reads back as the value of `i`: of its two
neighbours on the grid the one inside the interval, and of two such the closer. -/
def Interval.candidate? (i : Interval) (tie : Tie) (g : Int) : Option Nat :=
  let (n, d) := onGrid i.value i.denominator g
  let c := n / d
  match i.inside g c, i.inside g (c + 1) with
  | false, false => none
  | true, false => some c
  | false, true => some (c + 1)
  | true, true =>
    match compare (2 * n) ((2 * c + 1) * d) with
    | .lt => some c
    | .gt => some (c + 1)
    | .eq =>
      match tie with
      | .up => some (c + 1)
      | .even => some (if c % 2 = 0 then c else c + 1)

/-- Trailing zeros moved into the exponent, at most `n` of them. -/
def trim : Nat → Decimal → Decimal
  | 0, x => x
  | n + 1, x =>
    if x.coefficient ≠ 0 ∧ x.coefficient % 10 = 0 then trim n ⟨x.coefficient / 10, x.exponent + 1⟩
    else x

/-- The fewest digits that read back as the magnitude of a double, and of those the closest.
Seventeen digits always do. -/
def shortest (tie : Tie) (b : Binary) : Decimal :=
  if b.significand = 0 then ⟨0, 0⟩
  else
    let i := Interval.ofBinary b
    let k := magnitude i.value i.denominator
    match (List.range 17).findSome? fun (n : Nat) =>
        (i.candidate? tie (k - (n + 1))).map (Decimal.mk · (k - (n + 1))) with
    | some x => trim 17 x
    | none => ⟨0, 0⟩

/-- The magnitude of a double to `places + 1` significant digits, a tie going to even. -/
def rounded (places : Nat) (b : Binary) : Decimal :=
  if b.significand = 0 then ⟨0, 0⟩
  else
    let value := b.significand <<< b.exponent.toNat
    let denominator := 1 <<< (-b.exponent).toNat
    let g := magnitude value denominator - (places + 1)
    let (n, d) := onGrid value denominator g
    let c := n / d
    let up :=
      match compare (2 * (n % d)) d with
      | .lt => false
      | .gt => true
      | .eq => c % 2 = 1
    let c := if up then c + 1 else c
    if c = tenTo (places + 1) then ⟨tenTo places, g + 1⟩ else ⟨c, g⟩

end Decimal

end Atelier
