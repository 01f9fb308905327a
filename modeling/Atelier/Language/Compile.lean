/-
From a language definition to its two documents and back.

Both directions refuse a definition in which a name is declared twice or in which something
refers to a type that is not declared.
-/
import Atelier.Language.Documents
import Atelier.Language.Error
import Atelier.Text.Blank

namespace Atelier

/-- The textual form of a language definition. -/
structure SyntaxText where
  /-- The text of the abstract syntax. -/
  abstract : String
  /-- The text of the concrete syntax. -/
  concrete : String
deriving DecidableEq, Repr

/-- The first name of a list that occurs earlier in it. -/
def firstRepeated? : List String → List String → Option String
  | _, [] => none
  | seen, name :: rest =>
    if name ∈ seen then some name else firstRepeated? (name :: seen) rest

/-! ## References -/

/-- The first end of a relationship that is not declared, the source before the target. -/
def unknownEndpoint? (declared : String → Bool) (relationships : List (String × Declaration)) :
    Option SyntaxError :=
  relationships.findSome? fun (name, d) =>
    ([d.source, d.target].find? (!declared ·)).map (.unknownEndpoint name)

/-- The first element that a restriction is about and that is not declared. -/
def unknownRestrictionElement? (declared : String → Bool) (restrictions : List Restriction) :
    Option SyntaxError :=
  restrictions.findSome? fun r =>
    (r.elementNames.find? (!declared ·)).map (.unknownRestrictionElement r.kind)

/-- The first reference of an abstract syntax to a type that is not declared. -/
def AbstractSyntax.unknownReference? (a : AbstractSyntax) : Option SyntaxError :=
  unknownEndpoint? a.elements.contains a.relationships.entries
    <|> unknownRestrictionElement? a.elements.contains a.restrictions

/-! ## To text -/

namespace Element

/-- The rule that the concrete syntax has for a type of elements. -/
def rule (e : Element) : ElementRule :=
  ⟨e.width, e.height, e.marking⟩

end Element

namespace Relationship

/-- The declaration that the abstract syntax has for a type of relationships. -/
def declaration (r : Relationship) : Declaration :=
  ⟨r.min, r.max, r.source, r.target, r.properties⟩

end Relationship

namespace Model

/-- What the language contains. -/
def abstractSyntax (m : Model) : AbstractSyntax where
  elements := .ofList (m.elements.map fun e => (e.name, e.properties))
  relationships := .ofList (m.relationships.map fun r => (r.name, r.declaration))
  restrictions := m.restrictions

/-- How the language looks. -/
def concreteSyntax (m : Model) : ConcreteSyntax where
  elements := .ofList (m.elements.map fun e => (e.name, e.rule))
  relationships := .ofList (m.relationships.map fun r => (r.name, r.marking))

/-- The first thing that keeps a definition from having a textual form. -/
def fault? (m : Model) : Option SyntaxError :=
  (firstRepeated? [] (m.elements.map (·.name))).map .duplicateElement
    <|> (firstRepeated? [] (m.relationships.map (·.name))).map .duplicateRelationship
    <|> m.abstractSyntax.unknownReference?

/-- The textual form of a definition. -/
def toText (m : Model) : Except SyntaxError SyntaxText :=
  match m.fault? with
  | some e => .error e
  | none => .ok ⟨m.abstractSyntax.toJson.pretty, m.concreteSyntax.toJson.pretty⟩

end Model

/-! ## From text -/

/-- The abstract syntax in a text. -/
def AbstractSyntax.parse (text : String) : Except SyntaxError AbstractSyntax :=
  match (Json.parse text).bind ofJson? with
  | some a => .ok a
  | none => .error (.json .abstract text)

/-- The concrete syntax in a text; a blank text has no rules. -/
def ConcreteSyntax.parse (text : String) : Except SyntaxError ConcreteSyntax :=
  if blank text then .ok .empty
  else
    match (Json.parse text).bind ofJson? with
    | some c => .ok c
    | none => .error (.json .concrete text)

/-- The first rule of a concrete syntax for a type that is not declared, elements before
relationships. -/
def ConcreteSyntax.undeclared? (c : ConcreteSyntax) (a : AbstractSyntax) : Option SyntaxError :=
  (c.elements.names.find? (!a.elements.contains ·)).map (.undeclaredType "element")
    <|> (c.relationships.names.find? (!a.relationships.contains ·)).map
      (.undeclaredType "relationship")

/-- The type of elements with a declaration and a rule. -/
def Element.ofParts (name : String) (properties : List Property) (rule : ElementRule) :
    Element :=
  ⟨name, rule.width, rule.height, properties, rule.marking⟩

/-- The type of relationships with a declaration and a marking. -/
def Relationship.ofParts (name : String) (d : Declaration) (marking : Marking) : Relationship :=
  ⟨name, d.min, d.max, d.source, d.target, d.properties, marking⟩

/-- The definition with the declarations of an abstract syntax and the rules of a concrete
syntax. -/
def Model.ofSyntax (a : AbstractSyntax) (c : ConcreteSyntax) : Model where
  elements := a.elements.entries.map fun (name, properties) =>
    .ofParts name properties ((c.elements.get? name).getD .default)
  relationships := a.relationships.entries.map fun (name, d) =>
    .ofParts name d ((c.relationships.get? name).getD .none)
  restrictions := a.restrictions

/-- The definition with a textual form. -/
def Model.ofText (text : SyntaxText) : Except SyntaxError Model := do
  let a ← AbstractSyntax.parse text.abstract
  let c ← ConcreteSyntax.parse text.concrete
  match a.unknownReference? <|> c.undeclared? a with
  | some e => .error e
  | none => .ok (.ofSyntax a c)

end Atelier
