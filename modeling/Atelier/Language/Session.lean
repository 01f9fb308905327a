/-
Sessions: a language definition while it is being edited.

The definition is held in both forms, as a graph and as text, beside its semantics.  Only the
form of the current mode is authoritative; entering the other mode brings it up to date.
-/
import Atelier.Language.Compile

namespace Atelier

/-- The form in which a definition is being edited. -/
inductive Mode where
  | graphical
  | textual
deriving DecidableEq, Repr

/-- A definition while it is being edited. -/
structure Session where
  model : Model := .empty
  /-- The text of the abstract syntax. -/
  abstract : String := ""
  /-- The text of the concrete syntax. -/
  concrete : String := ""
  /-- The text of the semantics. -/
  semantics : String := ""
  mode : Mode := .graphical
  /-- Why the last conversion between the forms failed, if it did. -/
  lastError : Option SyntaxError := none
deriving DecidableEq

namespace Session

/-- A session about a definition, in graphical mode. -/
def ofModel (model : Model) : Session :=
  { model }

/-- Why the last conversion between the forms failed, in words. -/
def lastMessage? (w : Wording) (s : Session) : Option String :=
  s.lastError.map (·.message w)

/-! ## Edits -/

/-- The session with another graph. -/
def setModel (s : Session) (model : Model) : Session :=
  { s with model }

/-- The session with other types of elements in its graph. -/
def setElements (s : Session) (elements : List Element) : Session :=
  { s with model := { s.model with elements } }

/-- The session with other types of relationships in its graph. -/
def setRelationships (s : Session) (relationships : List Relationship) : Session :=
  { s with model := { s.model with relationships } }

/-- The session with other restrictions in its graph. -/
def setRestrictions (s : Session) (restrictions : List Restriction) : Session :=
  { s with model := { s.model with restrictions } }

/-- The session with another text of the abstract syntax. -/
def setAbstract (s : Session) (text : String) : Session :=
  { s with abstract := text }

/-- The session with another text of the concrete syntax. -/
def setConcrete (s : Session) (text : String) : Session :=
  { s with concrete := text }

/-- The session with another text of the semantics. -/
def setSemantics (s : Session) (text : String) : Session :=
  { s with semantics := text }

/-! ## Modes -/

/-- Enters textual mode.  The documents are made from the graph, and stay as they are if that
fails. -/
def toTextual (s : Session) : Session × Except SyntaxError Unit :=
  let s := { s with mode := .textual }
  match s.model.toText with
  | .ok text =>
    ({ s with abstract := text.abstract, concrete := text.concrete, lastError := none }, .ok ())
  | .error e => ({ s with lastError := some e }, .error e)

/-- Enters graphical mode.  The graph is made from the documents if neither is blank, and stays
as it is if that fails. -/
def toGraphical (s : Session) : Session × Except SyntaxError Unit :=
  let s := { s with mode := .graphical }
  if blank s.abstract || blank s.concrete then (s, .ok ())
  else
    match Model.ofText ⟨s.abstract, s.concrete⟩ with
    | .ok model => ({ s with model, lastError := none }, .ok ())
    | .error e => ({ s with lastError := some e }, .error e)

/-- Enters a mode. -/
def switchTo (s : Session) : Mode → Session × Except SyntaxError Unit
  | .graphical => s.toGraphical
  | .textual => s.toTextual

end Session

end Atelier
