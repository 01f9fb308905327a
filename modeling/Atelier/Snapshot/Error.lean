/-
Why a snapshot cannot be loaded.
-/
import Atelier.Text.Quoted
import Atelier.Text.Wording

namespace Atelier

/-- Why a snapshot cannot be loaded. -/
inductive SnapshotError where
  /-- The text is no JSON, or not that of a snapshot. -/
  | json (text : String)
  /-- The text is no XML. -/
  | xml (text : String)
  /-- An element that is neither the list of shapes nor a shape. -/
  | unexpectedElement (name : String)
  | missingAttribute (name : String)
  | invalidNumber (name value : String)
  | invalidId (text : String)
  | unknownKind (name : String)
  | unknownSlope (name : String)
  /-- The snapshot is in another version of the format. -/
  | unsupportedVersion (version : Nat)
deriving DecidableEq, Repr

/-- What is wrong, in words. -/
def SnapshotError.message (w : Wording) : SnapshotError → String
  | json text => "invalid JSON snapshot: " ++ w.refusal .snapshot text
  | xml text => "invalid XML snapshot: " ++ w.refusal .xml text
  | unexpectedElement name => "unexpected element <" ++ name ++ ">"
  | missingAttribute name => "missing attribute `" ++ name ++ "`"
  | invalidNumber name value =>
    "attribute `" ++ name ++ "` is not a number: " ++ quoted value
  | invalidId text => "invalid shape id: " ++ quoted text
  | unknownKind name => "unknown shape kind: " ++ quoted name
  | unknownSlope name => "unknown line slope: " ++ quoted name
  | unsupportedVersion version => "unsupported snapshot version " ++ toString version

end Atelier
