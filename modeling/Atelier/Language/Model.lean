/-
Language definitions: types of elements, types of relationships between them, and
restrictions on models of the language.
-/

namespace Atelier

/-- A typed property of an element or a relationship. -/
structure Property where
  name : String
  /-- The name of the property's type. -/
  type : String
  defaultValue : String
  /-- The values allowed, for a property that is one of a list. -/
  possibleValues : List String
  comment : String
deriving DecidableEq, Repr

/-- Where the value of a property is shown on a drawn element. -/
structure Label where
  property : String
  position : String
deriving DecidableEq, Repr

/-- A style for elements of which a property has a value. -/
structure Style where
  linkedProperty : String
  linkedValue : String
  style : String
deriving DecidableEq, Repr

/-- How drawn elements or relationships of a type are labelled and styled. -/
structure Marking where
  /-- The property whose value names an instance. -/
  labelProperty : String
  labels : List Label
  styles : List Style
deriving DecidableEq, Repr

/-- No labels and no styles. -/
def Marking.none : Marking :=
  ⟨"", [], []⟩

/-- A type of elements. -/
structure Element where
  name : String
  width : Float
  height : Float
  properties : List Property
  marking : Marking
deriving DecidableEq, BEq

/-- The width of elements for which no rule gives one. -/
def Element.defaultWidth : Float := 100

/-- The height of elements for which no rule gives one. -/
def Element.defaultHeight : Float := 50

/-- A type of relationships from elements of one type to elements of another. -/
structure Relationship where
  name : String
  /-- The least number of instances, if there is one. -/
  min : Option UInt32
  /-- The greatest number of instances, if there is one. -/
  max : Option UInt32
  /-- The type of elements where it starts. -/
  source : String
  /-- The type of elements where it ends. -/
  target : String
  properties : List Property
  marking : Marking
deriving DecidableEq, Repr

/-- A rule about the elements of a model. -/
inductive Restriction where
  /-- Elements of these types have different names. -/
  | uniqueName (elements : List String)
  /-- Elements of type `child` stand inside elements of type `parent`. -/
  | parentChild (parent child : String)
  /-- The number of elements of a type has bounds. -/
  | quantityElement (element : String) (min max : Option UInt32)
deriving DecidableEq, Repr

namespace Restriction

/-- The name of the kind of restriction. -/
def kind : Restriction → String
  | uniqueName _ => "unique_name"
  | parentChild .. => "parent_child"
  | quantityElement .. => "quantity_element"

/-- The types of elements that a restriction is about. -/
def elementNames : Restriction → List String
  | uniqueName elements => elements
  | parentChild parent child => [parent, child]
  | quantityElement element _ _ => [element]

end Restriction

/-- The definition of a language. -/
structure Model where
  elements : List Element
  relationships : List Relationship
  restrictions : List Restriction
deriving DecidableEq, BEq

namespace Model

/-- The definition that defines nothing. -/
def empty : Model :=
  ⟨[], [], []⟩

/-- Whether a definition defines nothing. -/
def isEmpty (m : Model) : Bool :=
  m.elements.isEmpty && m.relationships.isEmpty && m.restrictions.isEmpty

end Model

end Atelier
