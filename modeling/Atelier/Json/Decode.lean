/-
Records, lists and choices as JSON values: how a typed document is read from its value.

A record is an object or an array of its fields in order.  Members it does not know are passed
over; a field given twice is refused.  Every reader returns `none` where the value does not
have its shape.
-/
import Atelier.Json.Canonical
import Atelier.Table

namespace Atelier.Json

/-! ## Single values -/

/-- A text. -/
def string? : Json → Option String
  | .str s => some s
  | _ => none

/-- A natural number below `bound`, written without a point or a power of ten. -/
def natural? (bound : Nat) : Json → Option Nat
  | .num (.natural n) => if n < bound then some n else none
  | _ => none

/-- A number of any kind. -/
def float? : Json → Option Float
  | .num n => some n.toFloat
  | _ => none

/-- A value, or `null` for none. -/
def optional? {α : Type} (read : Json → Option α) : Json → Option (Option α)
  | .null => some none
  | v => (read v).map some

/-- One of several names: as a text, or as the only key of an object, with `null`. -/
def choice? {α : Type} (read : String → Option α) : Json → Option α
  | .str s => read s
  | .obj [(name, .null)] => read name
  | _ => none

/-! ## Lists and tables -/

/-- A list, item by item. -/
def list? {α : Type} (read : Json → Option α) : Json → Option (List α)
  | .arr items => items.mapM read
  | _ => none

/-- A table: of a repeated name the first place and the last value. -/
def table? {α : Type} (read : Json → Option α) : Json → Option (Table α)
  | .obj members => do
    let entries ← members.mapM fun (name, v) => (read v).map (name, ·)
    some (.ofList entries)
  | _ => none

/-! ## Records -/

/-- The fields of a record by name. -/
abbrev Fields := String → Option Json

/-- Whether no name of `names` is the key of two members. -/
def eachOnce (names : List String) (members : List (String × Json)) : Bool :=
  names.all fun name => (members.filter (·.1 = name)).length ≤ 1

/-- The fields of a record that has the given names: the members of an object, or the items of
an array in the order of the names, of which the last may be missing. -/
def record? (names : List String) : Json → Option Fields
  | .obj members => if eachOnce names members then some (members.lookup ·) else none
  | .arr items => if items.length ≤ names.length then some ((names.zip items).lookup ·) else none
  | _ => none

namespace Fields

variable {α : Type}

/-- A field that has to be there. -/
def required (fields : Fields) (name : String) (read : Json → Option α) : Option α :=
  (fields name).bind read

/-- A field with a value for its absence. -/
def withDefault (fields : Fields) (name : String) (default : α) (read : Json → Option α) :
    Option α :=
  match fields name with
  | none => some default
  | some v => read v

end Fields

end Atelier.Json
