/-
Names of hosts: the form in which they are looked up.

A name is compared without regard to case and to variants of letters, and written in ASCII.  A
label with other letters is written as its code behind `xn--`.
-/
import Atelier.Url.Label
import Atelier.Url.Percent

namespace Atelier.Url

/-- What a character of a name stands for, if a name may hold it. -/
def nameImage? (c : Char) : Option (List Char) :=
  if nameCharacters.has c then some [c]
  else if nameSilent.has c then some []
  else nameVariants.image? c

/-- Characters that a name may not hold. -/
def nameForbidden (c : Char) : Bool :=
  c.toNat ≤ 0x20 || c.toNat = 0x7F || "%#/:<>?@[\\]^|".toList.contains c

/-- The labels of the name that a text stands for. -/
def nameLabels? (text : List Char) : Option (List (List Char)) := do
  let images ← text.mapM nameImage?
  some (pieces (· = '.') (composed images.flatten))

/-- The name that a part of a URL gives, if it is one. -/
def hostName? (text : List Char) : Option (List Char) := do
  let labels ← nameLabels? (← percentDecoded? text)
  let shown ← labels.mapM shownLabel?
  let directed := !shown.any (·.any isRightward) || shown.all directionsFit
  let name := ['.'].intercalate (labels.map asciiLabel)
  if name.isEmpty || name.any nameForbidden || !shown.all isLabel || !directed then none
  else some name

end Atelier.Url
