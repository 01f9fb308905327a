/-
Snapshots in either format.
-/
import Atelier.Snapshot.Json
import Atelier.Snapshot.Xml
import Atelier.Text.Blank

namespace Atelier

/-- A format of snapshots. -/
inductive SnapshotFormat where
  | json
  | xml
deriving DecidableEq, Repr

namespace SnapshotFormat

/-- The format with a name. -/
def ofName? : String → Option SnapshotFormat
  | "json" => some json
  | "xml" => some xml
  | _ => none

/-- The format that a text seems to have: XML if it starts with an angle bracket. -/
def ofText (text : String) : SnapshotFormat :=
  if (trimStart text.toList).head? = some '<' then xml else json

end SnapshotFormat

namespace Sheet

/-- The shapes in a text of a format. -/
def ofTextIn (format : SnapshotFormat) (text : String) : Except SnapshotError (Sheet Float) :=
  match format with
  | .json => ofJsonText text
  | .xml => ofXmlText text

/-- The shapes in a text of the format that it seems to have. -/
def ofText (text : String) : Except SnapshotError (Sheet Float) :=
  ofTextIn (.ofText text) text

/-- The text of shapes in a format. -/
def textIn (format : SnapshotFormat) (s : Sheet Float) : String :=
  match format with
  | .json => s.jsonText
  | .xml => s.xmlText

end Sheet

end Atelier
