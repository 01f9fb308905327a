/-
The semantics of a language: which types carry meaning, and which constraints each stands for.

A document is kept as JSON text.  `Semantics.parse` reads it strictly, and `Semantics.current`
takes what it can.
-/
import Atelier.Language.Documents
import Atelier.Text.Blank
import Atelier.Text.Wording

namespace Atelier

/-- What elements of a type mean. -/
structure ElementSemantics where
  param : String := ""
  constraint : String := ""
  selectedConstraint : String := ""
  deselectedConstraint : String := ""
deriving DecidableEq, Repr

/-- What relations of a type mean. -/
structure RelationSemantics where
  params : List String := []
  constraint : String := ""
deriving DecidableEq, Repr

/-- What attributes of a type mean. -/
structure AttributeSemantics where
  parent : String := ""
  param : String := ""
  template : String := ""
  constraint : String := ""
deriving DecidableEq, Repr

/-- Where the type of a relation is found in a model. -/
structure RelationPropertyField where
  key : String
  index : UInt32
deriving DecidableEq, Repr

/-- The semantics of a language. -/
structure Semantics where
  elementTypes : List String := []
  elementRules : Table ElementSemantics := .empty
  relationTypes : List String := []
  relationRules : Table RelationSemantics := .empty
  attributeTypes : List String := []
  attributeRules : Table AttributeSemantics := .empty
  hierarchyTypes : List String := []
  typingRelationTypes : List String := []
  relationPropertySchema : Table RelationPropertyField := .empty

/-! ## Rules as records -/

namespace ElementSemantics

/-- The fields of a rule. -/
def fields (r : ElementSemantics) : List (String × Json) :=
  [("param", .str r.param), ("constraint", .str r.constraint),
    ("selectedConstraint", .str r.selectedConstraint),
    ("deselectedConstraint", .str r.deselectedConstraint)]

/-- The rule in a record; a missing field is empty. -/
def ofJson? (v : Json) : Option ElementSemantics := do
  let r ← v.record? ["param", "constraint", "selectedConstraint", "deselectedConstraint"]
  some {
    param := ← r.withDefault "param" "" Json.string?
    constraint := ← r.withDefault "constraint" "" Json.string?
    selectedConstraint := ← r.withDefault "selectedConstraint" "" Json.string?
    deselectedConstraint := ← r.withDefault "deselectedConstraint" "" Json.string? }

end ElementSemantics

namespace RelationSemantics

/-- The fields of a rule. -/
def fields (r : RelationSemantics) : List (String × Json) :=
  [("params", .ofStrings r.params), ("constraint", .str r.constraint)]

/-- The rule in a record; a missing field is empty. -/
def ofJson? (v : Json) : Option RelationSemantics := do
  let r ← v.record? ["params", "constraint"]
  some {
    params := ← r.withDefault "params" [] Json.strings?
    constraint := ← r.withDefault "constraint" "" Json.string? }

end RelationSemantics

namespace AttributeSemantics

/-- The fields of a rule. -/
def fields (r : AttributeSemantics) : List (String × Json) :=
  [("parent", .str r.parent), ("param", .str r.param), ("template", .str r.template),
    ("constraint", .str r.constraint)]

/-- The rule in a record; a missing field is empty. -/
def ofJson? (v : Json) : Option AttributeSemantics := do
  let r ← v.record? ["parent", "param", "template", "constraint"]
  some {
    parent := ← r.withDefault "parent" "" Json.string?
    param := ← r.withDefault "param" "" Json.string?
    template := ← r.withDefault "template" "" Json.string?
    constraint := ← r.withDefault "constraint" "" Json.string? }

end AttributeSemantics

namespace RelationPropertyField

/-- The fields of the place of a type. -/
def fields (f : RelationPropertyField) : List (String × Json) :=
  [("key", .str f.key), ("index", .ofNat f.index.toNat)]

/-- The place in a record. -/
def ofJson? (v : Json) : Option RelationPropertyField := do
  let r ← v.record? ["key", "index"]
  some {
    key := ← r.required "key" Json.string?
    index := ← r.required "index" Json.word? }

end RelationPropertyField

/-! ## The document -/

namespace Semantics

/-- The keys of a document, in order. -/
def keys : List String :=
  ["elementTypes", "elementTranslationRules", "relationTypes", "relationTranslationRules",
    "attributeTypes", "attributeTranslationRules", "hierarchyTypes", "typingRelationTypes",
    "relationPropertySchema"]

/-- The keys that a stored document has to have. -/
def coreKeys : List String :=
  ["elementTypes", "elementTranslationRules", "relationTypes", "relationTranslationRules"]

/-- The keys of rules.  An empty array there is an empty table. -/
def ruleKeys : List String :=
  ["elementTranslationRules", "relationTranslationRules", "attributeTranslationRules"]

/-- The fields of a document. -/
def fields (d : Semantics) : List (String × Json) :=
  [("elementTypes", .ofStrings d.elementTypes),
   ("elementTranslationRules", d.elementRules.toJson (.obj ·.fields)),
   ("relationTypes", .ofStrings d.relationTypes),
   ("relationTranslationRules", d.relationRules.toJson (.obj ·.fields)),
   ("attributeTypes", .ofStrings d.attributeTypes),
   ("attributeTranslationRules", d.attributeRules.toJson (.obj ·.fields)),
   ("hierarchyTypes", .ofStrings d.hierarchyTypes),
   ("typingRelationTypes", .ofStrings d.typingRelationTypes),
   ("relationPropertySchema", d.relationPropertySchema.toJson (.obj ·.fields))]

/-- A document as a record. -/
def toJson (d : Semantics) : Json :=
  .obj d.fields

/-- The text of a document. -/
def text (d : Semantics) : String :=
  d.toJson.pretty

/-- The document whose fields are read by `field`, which is given the name of each, the value for
its absence, and the reader of its shape. -/
def ofFields {m : Type → Type} [Monad m]
    (field : {α : Type} → String → α → (Json → Option α) → m α) : m Semantics := do
  return {
    elementTypes := ← field "elementTypes" [] Json.strings?
    elementRules := ← field "elementTranslationRules" .empty (Json.table? ElementSemantics.ofJson?)
    relationTypes := ← field "relationTypes" [] Json.strings?
    relationRules := ← field "relationTranslationRules" .empty
      (Json.table? RelationSemantics.ofJson?)
    attributeTypes := ← field "attributeTypes" [] Json.strings?
    attributeRules := ← field "attributeTranslationRules" .empty
      (Json.table? AttributeSemantics.ofJson?)
    hierarchyTypes := ← field "hierarchyTypes" [] Json.strings?
    typingRelationTypes := ← field "typingRelationTypes" [] Json.strings?
    relationPropertySchema := ← field "relationPropertySchema" .empty
      (Json.table? RelationPropertyField.ofJson?) }

/-- The document in a record, each field with the shape it has to have. -/
def ofJson? (v : Json) : Option Semantics := do
  let r ← v.record? keys
  ofFields fun name default read => r.withDefault name default read

/-- The document in members, where a field without its shape is as good as absent. -/
def ofMembers (members : List (String × Json)) : Semantics :=
  Id.run (ofFields fun name default read =>
    pure (((Json.get? name members).bind read).getD default))

/-- Members in which empty arrays of rules are empty tables. -/
def withRuleTables (members : List (String × Json)) : List (String × Json) :=
  members.map fun (name, v) =>
    (name, if name ∈ ruleKeys && v.isEmptyArray then .obj [] else v)

end Semantics

/-- Why a document cannot be used. -/
inductive SemanticsError where
  /-- The text is no JSON, or not that of a document. -/
  | json (text : String)
  | missingKey (key : String)
  /-- There are no types to start a document from. -/
  | noLanguageDefinition
deriving DecidableEq, Repr

/-- What is wrong, in words. -/
def SemanticsError.message (w : Wording) : SemanticsError → String
  | json text => "semantics is not valid JSON: " ++ w.refusal .semantics text
  | missingKey key => "semantics is missing " ++ key
  | noLanguageDefinition => "define language elements and relationships first"

namespace Semantics

/-- The members of a stored document.  It is an object that has all core keys. -/
def core (text : String) : Except SemanticsError (List (String × Json)) :=
  match Json.parseCanonical text with
  | none => .error (.json text)
  | some v =>
    let members := v.members?.getD []
    match coreKeys.find? fun key => (Json.get? key members).isNone with
    | some key => .error (.missingKey key)
    | none => .ok members

/-- The document in a text that has all core keys and every field in its shape. -/
def parse (text : String) : Except SemanticsError Semantics := do
  let members ← core text
  match ofJson? (.obj (withRuleTables members)) with
  | some d => .ok d
  | none => .error (.json text)

/-- The document in any text: what is missing or has not its shape is empty. -/
def current (text : String) : Semantics :=
  match (Json.parseCanonical text).bind Json.members? with
  | some members => ofMembers (withRuleTables members)
  | none => {}

/-! ## The first document of a language -/

/-- Each text of a list once, in the order of their first occurrence. -/
def distinct : List String → List String
  | [] => []
  | s :: rest => s :: (distinct rest).filter (· ≠ s)

/-- The name of the property whose possible values are the types of relations. -/
def relationTypeProperty : String := "Type"

/-- The types of relations that relationships have as possible values. -/
def relationTypesOf (relationships : List Relationship) : List String :=
  let properties := relationships.flatMap (·.properties)
  (properties.filter (·.name = relationTypeProperty)).flatMap (·.possibleValues)

/-- The first document of a language, from the types it has. -/
def initial (elements : List Element) (relationships : List Relationship) :
    Except SemanticsError Semantics :=
  if elements.isEmpty && relationships.isEmpty then .error .noLanguageDefinition
  else .ok {
    elementTypes := distinct (elements.map (·.name))
    relationTypes := distinct (relationTypesOf relationships)
    typingRelationTypes := ["IndividualCardinality"]
    relationPropertySchema := Table.empty.insert "type" ⟨"value", 0⟩ }

end Semantics

end Atelier
