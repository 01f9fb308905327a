/-
Search input that waits until it has been quiet for a while.

Times are in milliseconds.  A time before that of the input counts as no time after it.
-/
import Atelier.Catalog.Basic

namespace Atelier

/-- Input that waits, with the time at which it came. -/
structure Debounce where
  /-- How long it has to be quiet. -/
  delay : Nat
  pending : Option (String × Nat) := none
deriving DecidableEq, Repr

namespace Debounce

/-- New input at a time, in place of any that waits. -/
def input (d : Debounce) (text : String) (now : Nat) : Debounce :=
  { d with pending := some (text, now) }

/-- Whether input waits. -/
def isPending (d : Debounce) : Bool :=
  d.pending.isSome

/-- Releases the input that waits, if it has waited long enough. -/
def poll (d : Debounce) (now : Nat) : Debounce × Option String :=
  match d.pending with
  | some (text, since) =>
    if d.delay ≤ now - since then ({ d with pending := none }, some text) else (d, none)
  | none => (d, none)

/-- Releases the input as the search of a catalog, and says whether it did. -/
def apply (d : Debounce) (c : Catalog) (now : Nat) : Debounce × Catalog × Bool :=
  match d.poll now with
  | (d, some search) => (d, c.setSearch search, true)
  | (d, none) => (d, c, false)

end Debounce

end Atelier
