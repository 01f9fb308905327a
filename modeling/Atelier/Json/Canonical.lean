/-
Canonical JSON values: every part readable, and the members of each object in the order of
their keys, each key once.

A document kept as a value, and not as fields of known names, is kept in this form.
-/
import Atelier.Json.Reader

namespace Atelier.Json

/-! ## Members in the order of their keys -/

/-- The value of a key. -/
def get? (key : String) (members : List (String × Json)) : Option Json :=
  members.lookup key

/-- The members with a key set to a value, a value it had replaced. -/
def set (key : String) (v : Json) : List (String × Json) → List (String × Json)
  | [] => [(key, v)]
  | (k, w) :: rest =>
    if key < k then (key, v) :: (k, w) :: rest
    else if key = k then (key, v) :: rest
    else (k, w) :: set key v rest

/-- Members in the order of their keys.  Of a repeated key the last value counts. -/
def sortMembers (members : List (String × Json)) : List (String × Json) :=
  members.foldl (fun done (k, v) => set k v done) []

/-! ## The canonical form -/

mutual

/-- The canonical form of a value, if every part of it can be read. -/
def canonical? : Json → Option Json
  | .arr items => (canonicalItems? items).map .arr
  | .obj members => (canonicalMembers? members).map fun ms => .obj (sortMembers ms)
  | .unreadable => none
  | v => some v

/-- The canonical forms of items. -/
def canonicalItems? : List Json → Option (List Json)
  | [] => some []
  | v :: rest => do
    let v ← canonical? v
    let rest ← canonicalItems? rest
    some (v :: rest)

/-- The canonical forms of members, still in the order they are written in. -/
def canonicalMembers? : List (String × Json) → Option (List (String × Json))
  | [] => some []
  | (k, v) :: rest => do
    let v ← canonical? v
    let rest ← canonicalMembers? rest
    some ((k, v) :: rest)

end

/-- Whether every part of a value can be read. -/
def readable (v : Json) : Bool :=
  v.canonical?.isSome

/-- The canonical value of a text. -/
def parseCanonical (text : String) : Option Json :=
  (parse text).bind canonical?

/-- The members of an object. -/
def members? : Json → Option (List (String × Json))
  | .obj members => some members
  | _ => none

/-- Whether a value is an array without items. -/
def isEmptyArray : Json → Bool
  | .arr [] => true
  | _ => false

end Atelier.Json
