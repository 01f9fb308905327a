/-
Text inside attribute values: the five characters with a meaning of their own are written as
references.
-/
import Atelier.Xml.Basic

namespace Atelier.Xml

/-- A character of an attribute value. -/
def escapeChar : Char → List Char
  | '&' => "&amp;".toList
  | '<' => "&lt;".toList
  | '>' => "&gt;".toList
  | '"' => "&quot;".toList
  | '\'' => "&apos;".toList
  | c => [c]

/-- A text as an attribute value. -/
def escape (text : String) : String :=
  String.ofList (text.toList.flatMap escapeChar)

end Atelier.Xml
