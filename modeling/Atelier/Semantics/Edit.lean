/-
Edits of a stored semantics document.

An edit changes one key of the stored object and keeps all else as it is stored; keys of the
document that the object lacks are added with their defaults.  The text is written anew, with
the keys in order.
-/
import Atelier.Language.Session
import Atelier.Semantics.Document

namespace Atelier

/-- A change to one key of a document. -/
inductive SemanticsEdit where
  | elementTypes (types : List String)
  | relationTypes (types : List String)
  | attributeTypes (types : List String)
  | elementRule (name : String) (rule : ElementSemantics)
  | relationRule (name : String) (rule : RelationSemantics)
  | attributeRule (name : String) (rule : AttributeSemantics)
deriving DecidableEq, Repr

namespace SemanticsEdit

/-- The key that an edit changes. -/
def key : SemanticsEdit → String
  | elementTypes _ => "elementTypes"
  | relationTypes _ => "relationTypes"
  | attributeTypes _ => "attributeTypes"
  | elementRule .. => "elementTranslationRules"
  | relationRule .. => "relationTranslationRules"
  | attributeRule .. => "attributeTranslationRules"

/-- A stored table of rules with one rule set.  What is no table is replaced by one. -/
def insertRule (name : String) (rule : List (String × Json)) (stored : Json) : Json :=
  .obj (Json.set name (.obj (Json.sortMembers rule)) (stored.members?.getD []))

/-- The value of the key after an edit, from the one before it. -/
def change : SemanticsEdit → Json → Json
  | elementTypes types, _ | relationTypes types, _ | attributeTypes types, _ => .ofStrings types
  | elementRule name rule, stored => insertRule name rule.fields stored
  | relationRule name rule, stored => insertRule name rule.fields stored
  | attributeRule name rule, stored => insertRule name rule.fields stored

/-- Members with a default for every key of a document that they lack. -/
def withDefaults (members : List (String × Json)) : List (String × Json) :=
  ({} : Semantics).fields.foldl (fun done (k, v) =>
    if (Json.get? k done).isSome then done else Json.set k v done) members

/-- The members of a stored text, none if it is no object. -/
def storedMembers (text : String) : List (String × Json) :=
  ((Json.parseCanonical text).bind Json.members?).getD []

/-- The stored text after an edit. -/
def apply (e : SemanticsEdit) (text : String) : String :=
  let members := withDefaults (storedMembers text)
  let stored := (Json.get? e.key members).getD .null
  (Json.obj (Json.set e.key (e.change stored) members)).pretty

end SemanticsEdit

namespace Session

/-- The session after an edit of its semantics. -/
def edit (s : Session) (e : SemanticsEdit) : Session :=
  { s with semantics := e.apply s.semantics }

/-- The session with a usable semantics, and the document: the stored one if it has all core
keys, or else the first document of the language. -/
def prepare (s : Session) : Session × Except SemanticsError Semantics :=
  match Semantics.core s.semantics with
  | .ok _ => (s, .ok (.current s.semantics))
  | .error _ =>
    match Semantics.initial s.model.elements s.model.relationships with
    | .ok d => ({ s with semantics := d.text }, .ok d)
    | .error e => (s, .error e)

end Session

end Atelier
