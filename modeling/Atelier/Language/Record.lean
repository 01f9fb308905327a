/-
Language definitions as JSON records.
-/
import Atelier.Json.Decode
import Atelier.Json.Printer
import Atelier.Language.Model

namespace Atelier

/-- An optional number as a value. -/
def Json.ofBound : Option UInt32 → Json
  | none => .null
  | some n => .ofNat n.toNat

/-- A number of at most 32 bits. -/
def Json.word? (v : Json) : Option UInt32 :=
  (Json.natural? UInt32.size v).map UInt32.ofNat

/-- An optional number of at most 32 bits. -/
def Json.bound? : Json → Option (Option UInt32) :=
  Json.optional? Json.word?

/-- A list of texts. -/
def Json.strings? : Json → Option (List String) :=
  Json.list? Json.string?

/-- Members that are written only if a list is not empty. -/
def Json.unlessEmpty {α : Type} (name : String) (items : List α) (v : Json) :
    List (String × Json) :=
  if items.isEmpty then [] else [(name, v)]

namespace Property

/-- A property as a record; possible values and comment are written only if there are any. -/
def toJson (p : Property) : Json :=
  .obj ([("name", .str p.name), ("type", .str p.type), ("default_value", .str p.defaultValue)]
    ++ Json.unlessEmpty "possible_values" p.possibleValues (.ofStrings p.possibleValues)
    ++ Json.unlessEmpty "comment" p.comment.toList (.str p.comment))

/-- The property in a record. -/
def ofJson? (v : Json) : Option Property := do
  let r ← v.record? ["name", "type", "default_value", "possible_values", "comment"]
  some {
    name := ← r.required "name" Json.string?
    type := ← r.required "type" Json.string?
    defaultValue := ← r.withDefault "default_value" "" Json.string?
    possibleValues := ← r.withDefault "possible_values" [] Json.strings?
    comment := ← r.withDefault "comment" "" Json.string? }

end Property

namespace Label

/-- A label as a record. -/
def toJson (l : Label) : Json :=
  .obj [("property", .str l.property), ("position", .str l.position)]

/-- The label in a record. -/
def ofJson? (v : Json) : Option Label := do
  let r ← v.record? ["property", "position"]
  some {
    property := ← r.required "property" Json.string?
    position := ← r.required "position" Json.string? }

end Label

namespace Style

/-- A style as a record. -/
def toJson (s : Style) : Json :=
  .obj [("linked_property", .str s.linkedProperty), ("linked_value", .str s.linkedValue),
    ("style", .str s.style)]

/-- The style in a record. -/
def ofJson? (v : Json) : Option Style := do
  let r ← v.record? ["linked_property", "linked_value", "style"]
  some {
    linkedProperty := ← r.required "linked_property" Json.string?
    linkedValue := ← r.required "linked_value" Json.string?
    style := ← r.required "style" Json.string? }

end Style

/-- A list of properties as a value. -/
def Property.listJson (ps : List Property) : Json :=
  .arr (ps.map toJson)

/-- A list of properties. -/
def Property.list? : Json → Option (List Property) :=
  Json.list? ofJson?

namespace Marking

/-- The field of the property whose value names an instance. -/
def labelPropertyField (m : Marking) : String × Json :=
  ("label_property", .str m.labelProperty)

/-- The fields of labels and styles. -/
def listFields (m : Marking) : List (String × Json) :=
  [("labels", .arr (m.labels.map Label.toJson)), ("styles", .arr (m.styles.map Style.toJson))]

/-- The marking among the fields of a record. -/
def ofFields? (r : Json.Fields) : Option Marking := do
  some {
    labelProperty := ← r.withDefault "label_property" "" Json.string?
    labels := ← r.withDefault "labels" [] (Json.list? Label.ofJson?)
    styles := ← r.withDefault "styles" [] (Json.list? Style.ofJson?) }

end Marking

namespace Element

/-- A type of elements as a record. -/
def toJson (e : Element) : Json :=
  .obj ([("name", .str e.name), ("width", .ofFloat e.width), ("height", .ofFloat e.height),
    e.marking.labelPropertyField, ("properties", Property.listJson e.properties)]
    ++ e.marking.listFields)

/-- The type of elements in a record. -/
def ofJson? (v : Json) : Option Element := do
  let r ← v.record?
    ["name", "width", "height", "label_property", "properties", "labels", "styles"]
  some {
    name := ← r.required "name" Json.string?
    width := ← r.withDefault "width" defaultWidth Json.float?
    height := ← r.withDefault "height" defaultHeight Json.float?
    properties := ← r.withDefault "properties" [] Property.list?
    marking := ← Marking.ofFields? r }

end Element

namespace Relationship

/-- A type of relationships as a record. -/
def toJson (r : Relationship) : Json :=
  .obj ([("name", .str r.name), ("min", .ofBound r.min), ("max", .ofBound r.max),
    ("source", .str r.source), ("target", .str r.target), r.marking.labelPropertyField,
    ("properties", Property.listJson r.properties)] ++ r.marking.listFields)

/-- The type of relationships in a record. -/
def ofJson? (v : Json) : Option Relationship := do
  let r ← v.record? ["name", "min", "max", "source", "target", "label_property", "properties",
    "labels", "styles"]
  some {
    name := ← r.required "name" Json.string?
    min := ← r.withDefault "min" none Json.bound?
    max := ← r.withDefault "max" none Json.bound?
    source := ← r.required "source" Json.string?
    target := ← r.required "target" Json.string?
    properties := ← r.withDefault "properties" [] Property.list?
    marking := ← Marking.ofFields? r }

end Relationship

namespace Restriction

/-- The fields of a restriction other than its kind. -/
def fields : Restriction → List (String × Json)
  | uniqueName elements => [("elements", .ofStrings elements)]
  | parentChild parent child => [("parent", .str parent), ("child", .str child)]
  | quantityElement element min max =>
    [("element", .str element), ("min", .ofBound min), ("max", .ofBound max)]

/-- A restriction as a record whose first field says which kind it is. -/
def toJson (r : Restriction) : Json :=
  .obj (("type", .str r.kind) :: r.fields)

/-- The restriction of a kind in a record without the field of the kind. -/
def ofFields? (kind : String) (v : Json) : Option Restriction :=
  match kind with
  | "unique_name" => do
    let r ← v.record? ["elements"]
    some (uniqueName (← r.required "elements" Json.strings?))
  | "parent_child" => do
    let r ← v.record? ["parent", "child"]
    some (parentChild (← r.required "parent" Json.string?) (← r.required "child" Json.string?))
  | "quantity_element" => do
    let r ← v.record? ["element", "min", "max"]
    some (quantityElement (← r.required "element" Json.string?)
      (← r.withDefault "min" none Json.bound?) (← r.withDefault "max" none Json.bound?))
  | _ => none

/-- The restriction in a record: an object with its kind as one of the fields, or an array with
its kind as the first item.  The kind decides how the other fields are read, so all of them
have to be readable, known or not. -/
def ofJson? (v : Json) : Option Restriction :=
  match v with
  | .obj members =>
    match members.filter (·.1 = "type") with
    | [(_, .str kind)] =>
      let others := Json.obj (members.filter (·.1 ≠ "type"))
      if others.readable then ofFields? kind others else none
    | _ => none
  | .arr (.str kind :: items) =>
    if (Json.arr items).readable then ofFields? kind (.arr items) else none
  | _ => none

end Restriction

namespace Model

/-- A definition as a record. -/
def toJson (m : Model) : Json :=
  .obj [("elements", .arr (m.elements.map Element.toJson)),
    ("relationships", .arr (m.relationships.map Relationship.toJson)),
    ("restrictions", .arr (m.restrictions.map Restriction.toJson))]

/-- The definition in a record. -/
def ofJson? (v : Json) : Option Model := do
  let r ← v.record? ["elements", "relationships", "restrictions"]
  some {
    elements := ← r.withDefault "elements" [] (Json.list? Element.ofJson?)
    relationships := ← r.withDefault "relationships" [] (Json.list? Relationship.ofJson?)
    restrictions := ← r.withDefault "restrictions" [] (Json.list? Restriction.ofJson?) }

/-- The JSON text of a definition. -/
def text (m : Model) : String :=
  m.toJson.pretty

/-- The definition in a JSON text. -/
def parse? (text : String) : Option Model :=
  (Json.parse text).bind ofJson?

end Model

end Atelier
