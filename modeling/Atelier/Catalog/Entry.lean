/-
What the service that publishes semantics answers with: pages of entries.
-/
import Atelier.Json.Decode
import Atelier.Json.Printer

namespace Atelier

/-- A published document. -/
structure Entry where
  id : Nat
  name : String
  /-- The name of the document's type. -/
  type : String
  /-- The document, as a canonical value or as a text. -/
  document : Json
deriving Inhabited

/-- An entry as it is offered for selection. -/
structure Choice where
  label : String
  /-- The number of the entry as a text. -/
  value : String
deriving DecidableEq, Repr

/-- What every answer of the service holds, its data aside. -/
structure Envelope (α : Type) where
  data : Option α := none
  /-- How many entries there are on all pages together. -/
  total : Nat := 0
  /-- What went wrong, if something did. -/
  errorCode : Option String := none
  message : Option String := none

namespace Entry

/-- A name with the name of its type. -/
def label (e : Entry) : String :=
  e.name ++ ": [" ++ e.type ++ "]"

/-- An entry as it is offered for selection. -/
def choice (e : Entry) : Choice :=
  ⟨e.label, toString e.id⟩

/-- Entries in the order of their names; entries of the same name stay in order. -/
def sortByName (entries : List Entry) : List Entry :=
  entries.mergeSort fun a b => !(b.name < a.name)

/-- An entry as a record. -/
def toJson (e : Entry) : Json :=
  .obj [("id", .ofNat e.id), ("name", .str e.name), ("type", .str e.type),
    ("semantics", e.document)]

/-- The entry in a record. -/
def ofJson? (v : Json) : Option Entry := do
  let r ← v.record? ["id", "name", "type", "semantics"]
  some {
    id := ← r.required "id" (Json.natural? UInt64.size)
    name := ← r.required "name" Json.string?
    type := ← r.required "type" Json.string?
    document := ← r.withDefault "semantics" .null Json.canonical? }

/-- The text of the document.  If the document is a text that holds JSON, it is that JSON. -/
def documentText (e : Entry) : String :=
  match e.document with
  | .str text => ((Json.parseCanonical text).map Json.pretty).getD text
  | document => document.pretty

end Entry

namespace Envelope

variable {α : Type}

/-- The envelope in a record. -/
def ofJson? (read : Json → Option α) (v : Json) : Option (Envelope α) := do
  let r ← v.record? ["data", "totalCount", "errorCode", "message"]
  let total (v : Json) := (Json.optional? (Json.natural? UInt64.size) v).map (·.getD 0)
  some {
    data := ← r.withDefault "data" none (Json.optional? read)
    total := ← r.withDefault "totalCount" 0 total
    errorCode := ← r.withDefault "errorCode" none (Json.optional? Json.string?)
    message := ← r.withDefault "message" none (Json.optional? Json.string?) }

/-- The envelope in a text. -/
def parse? (read : Json → Option α) (text : String) : Option (Envelope α) :=
  (Json.parse text).bind (ofJson? read)

/-- An envelope as a record. -/
def toJson (write : α → Json) (e : Envelope α) : Json :=
  let text (s : Option String) : Json := (s.map Json.str).getD .null
  .obj [("data", (e.data.map write).getD .null), ("totalCount", .ofNat e.total),
    ("errorCode", text e.errorCode), ("message", text e.message)]

end Envelope

end Atelier
