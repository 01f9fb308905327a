/-
Sets of characters, and what characters are replaced by, given as tables of code points.

A table is a list of lines.  A line holds entries with spaces between them, and an entry of a set
is a code point in base sixteen or a run of them, such as `41-5A`.  In a map the code points that
a character is replaced by follow an equals sign, with points between them.  A run is replaced by
the run that starts there, and `/2` says that only every second code point of it is meant.
-/
import Atelier.Text.Digits

namespace Atelier

/-- The entries of a table. -/
def tableEntries (lines : List String) : List (List Char) :=
  lines.flatMap fun line => pieces (· = ' ') line.toList

/-- The number that digits in base sixteen stand for. -/
def tableNumber (digits : List Char) : Nat :=
  (valueIn? 16 digits).getD 0

/-- The first and the last code point of a run. -/
def tableRun (entry : List Char) : Nat × Nat :=
  match pieces (· = '-') entry with
  | [first, last] => (tableNumber first, tableNumber last)
  | _ => (tableNumber entry, tableNumber entry)

/-! ## Sets -/

/-- A set of characters, by the first and the last code point of each run. -/
structure CodeSet where
  runs : List (Nat × Nat)

namespace CodeSet

/-- The set that a table gives. -/
def ofLines (lines : List String) : CodeSet :=
  ⟨(tableEntries lines).map tableRun⟩

/-- Whether a character is in a set. -/
def has (s : CodeSet) (c : Char) : Bool :=
  s.runs.any fun (first, last) => first ≤ c.toNat && c.toNat ≤ last

end CodeSet

/-! ## Maps -/

/-- A run of code points that are replaced alike: every `step`-th one from `first` to `last`. -/
structure CodeRun where
  first : Nat
  last : Nat
  step : Nat
  /-- What the first one is replaced by. -/
  image : List Nat

/-- What some characters are replaced by. -/
structure CodeMap where
  runs : List CodeRun

namespace CodeMap

/-- The run that an entry gives. -/
def run? (entry : List Char) : Option CodeRun :=
  match pieces (· = '=') entry with
  | [source, image] =>
    let source := pieces (· = '/') source
    let (first, last) := tableRun (source.headD [])
    some {
      first, last
      step := if source.length = 2 then 2 else 1
      image := (pieces (· = '.') image).map tableNumber }
  | _ => none

/-- The map that a table gives. -/
def ofLines (lines : List String) : CodeMap :=
  ⟨(tableEntries lines).filterMap run?⟩

/-- What a character is replaced by, if it is in the map. -/
def image? (m : CodeMap) (c : Char) : Option (List Char) :=
  (m.runs.find? fun r =>
    r.first ≤ c.toNat && c.toNat ≤ r.last && (c.toNat - r.first) % r.step = 0).map
  fun r => r.image.map fun n => Char.ofNat (n + (c.toNat - r.first))

end CodeMap

end Atelier
