/-
Percent-encoding: characters that may not stand in a part of a URL are written as their bytes,
each as a percent sign and two digits in base sixteen.

Which characters those are differs from part to part; each part has a predicate here.
-/
import Atelier.Text.Digits

namespace Atelier.Url

/-- A byte as a percent sign and two digits. -/
def percentByte (b : UInt8) : List Char :=
  ['%', (Nat.digitChar (b.toNat / 16)).toUpper, (Nat.digitChar (b.toNat % 16)).toUpper]

/-- A text with the characters that satisfy `special` written as their bytes. -/
def percentEncode (special : Char → Bool) (text : List Char) : List Char :=
  text.flatMap fun c => if special c then (String.utf8EncodeChar c).flatMap percentByte else [c]

/-- Whether a character is a tab or ends a line. -/
def isBreak (c : Char) : Bool :=
  c = '\t' || c = '\n' || c = '\r'

/-- A text without tabs and ends of lines, which are passed over in most places. -/
def withoutBreaks (text : List Char) : List Char :=
  text.filter (!isBreak ·)

/-! ## What is encoded -/

/-- Everything but the visible characters of ASCII and the space. -/
def isControl (c : Char) : Bool :=
  c.toNat < 0x20 || 0x7E < c.toNat

/-- What a fragment may not hold. -/
def fragmentSpecial (c : Char) : Bool :=
  isControl c || [' ', '"', '<', '>', '`'].contains c

/-- What a path may not hold. -/
def pathSpecial (c : Char) : Bool :=
  fragmentSpecial c || ['#', '?', '\x7b', '\x7d'].contains c

/-- What a user name or a password may not hold. -/
def userSpecial (c : Char) : Bool :=
  pathSpecial c || ['/', ':', ';', '=', '@', '[', '\\', ']', '^', '|'].contains c

/-- What a segment may not hold that is added to a path as a whole.  `web` says whether a
backslash separates segments. -/
def segmentSpecial (web : Bool) (c : Char) : Bool :=
  pathSpecial c || c = '/' || c = '%' || (web && c = '\\')

/-- What a query may not hold. -/
def querySpecial (web : Bool) (c : Char) : Bool :=
  isControl c || [' ', '"', '#', '<', '>'].contains c || (web && c = '\'')

/-- What the name or the value of a field in a query may not hold; a space is written as a plus
sign. -/
def fieldSpecial (c : Char) : Bool :=
  !(c.isAlphanum || ['*', '-', '.', '_', ' '].contains c)

/-- The name or the value of a field. -/
def fieldText (text : List Char) : List Char :=
  (percentEncode fieldSpecial text).map fun c => if c = ' ' then '+' else c

/-! ## Decoding -/

/-- The bytes of a text in which some are written as a percent sign and two digits. -/
def percentDecode : List Char → List UInt8
  | [] => []
  | '%' :: high :: low :: rest =>
    match hexDigit? high, hexDigit? low with
    | some h, some l => UInt8.ofNat (16 * h + l) :: percentDecode rest
    | _, _ => '%'.toUInt8 :: percentDecode (high :: low :: rest)
  | c :: rest => String.utf8EncodeChar c ++ percentDecode rest

/-- The text that percent-encoded text stands for, if its bytes are UTF-8. -/
def percentDecoded? (text : List Char) : Option (List Char) :=
  (String.fromUTF8? (percentDecode text).toByteArray).map String.toList

end Atelier.Url
