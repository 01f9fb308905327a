/-
The two documents of the textual form of a language definition.

The abstract syntax says what the language contains, the concrete syntax how it looks.  Both
give types by name, in the order of their declaration.
-/
import Atelier.Language.Record

namespace Atelier

/-! ## Abstract syntax -/

/-- The declaration of a type of relationships. -/
structure Declaration where
  min : Option UInt32
  max : Option UInt32
  source : String
  target : String
  properties : List Property
deriving DecidableEq, Repr

/-- What a language contains. -/
structure AbstractSyntax where
  /-- The properties of each type of elements. -/
  elements : Table (List Property)
  relationships : Table Declaration
  restrictions : List Restriction

/-- A table as an object. -/
def Table.toJson {α : Type} (value : α → Json) (t : Table α) : Json :=
  .obj (t.entries.map fun (name, v) => (name, value v))

/-- The declaration of a type of elements as a record. -/
def elementDeclarationJson (properties : List Property) : Json :=
  .obj [("properties", Property.listJson properties)]

/-- The properties in the declaration of a type of elements. -/
def elementDeclaration? (v : Json) : Option (List Property) := do
  let r ← v.record? ["properties"]
  r.withDefault "properties" [] Property.list?

namespace Declaration

/-- A bound as a field that is written only if there is one. -/
def boundField (name : String) : Option UInt32 → List (String × Json)
  | none => []
  | some n => [(name, .ofNat n.toNat)]

/-- A declaration as a record. -/
def toJson (d : Declaration) : Json :=
  .obj (boundField "min" d.min ++ boundField "max" d.max ++
    [("source", .str d.source), ("target", .str d.target),
      ("properties", Property.listJson d.properties)])

/-- The declaration in a record. -/
def ofJson? (v : Json) : Option Declaration := do
  let r ← v.record? ["min", "max", "source", "target", "properties"]
  some {
    min := ← r.withDefault "min" none Json.bound?
    max := ← r.withDefault "max" none Json.bound?
    source := ← r.required "source" Json.string?
    target := ← r.required "target" Json.string?
    properties := ← r.withDefault "properties" [] Property.list? }

end Declaration

namespace AbstractSyntax

/-- An abstract syntax as a record. -/
def toJson (a : AbstractSyntax) : Json :=
  .obj [("elements", a.elements.toJson elementDeclarationJson),
    ("relationships", a.relationships.toJson Declaration.toJson),
    ("restrictions", .arr (a.restrictions.map Restriction.toJson))]

/-- The abstract syntax in a record. -/
def ofJson? (v : Json) : Option AbstractSyntax := do
  let r ← v.record? ["elements", "relationships", "restrictions"]
  some {
    elements := ← r.withDefault "elements" .empty (Json.table? elementDeclaration?)
    relationships := ← r.withDefault "relationships" .empty (Json.table? Declaration.ofJson?)
    restrictions := ← r.withDefault "restrictions" [] (Json.list? Restriction.ofJson?) }

end AbstractSyntax

/-! ## Concrete syntax -/

/-- How elements of a type look. -/
structure ElementRule where
  width : Float
  height : Float
  marking : Marking
deriving DecidableEq, BEq

/-- How a language looks. -/
structure ConcreteSyntax where
  elements : Table ElementRule
  relationships : Table Marking

namespace ElementRule

/-- The rule for elements without one. -/
def default : ElementRule :=
  ⟨Element.defaultWidth, Element.defaultHeight, .none⟩

/-- A rule as a record. -/
def toJson (rule : ElementRule) : Json :=
  .obj ([("width", .ofFloat rule.width), ("height", .ofFloat rule.height),
    rule.marking.labelPropertyField] ++ rule.marking.listFields)

/-- The rule in a record. -/
def ofJson? (v : Json) : Option ElementRule := do
  let r ← v.record? ["width", "height", "label_property", "labels", "styles"]
  some {
    width := ← r.withDefault "width" Element.defaultWidth Json.float?
    height := ← r.withDefault "height" Element.defaultHeight Json.float?
    marking := ← Marking.ofFields? r }

end ElementRule

namespace Marking

/-- A marking as a record of its own. -/
def toJson (m : Marking) : Json :=
  .obj (m.labelPropertyField :: m.listFields)

/-- The marking in a record of its own. -/
def ofJson? (v : Json) : Option Marking := do
  ofFields? (← v.record? ["label_property", "labels", "styles"])

end Marking

namespace ConcreteSyntax

/-- The concrete syntax without rules. -/
def empty : ConcreteSyntax :=
  ⟨.empty, .empty⟩

/-- A concrete syntax as a record. -/
def toJson (c : ConcreteSyntax) : Json :=
  .obj [("elements", c.elements.toJson ElementRule.toJson),
    ("relationships", c.relationships.toJson Marking.toJson)]

/-- The concrete syntax in a record. -/
def ofJson? (v : Json) : Option ConcreteSyntax := do
  let r ← v.record? ["elements", "relationships"]
  some {
    elements := ← r.withDefault "elements" .empty (Json.table? ElementRule.ofJson?)
    relationships := ← r.withDefault "relationships" .empty (Json.table? Marking.ofJson?) }

end ConcreteSyntax

end Atelier
