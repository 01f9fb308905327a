/-
XML documents as trees, and the character classes of the format.
-/
import Atelier.Text.Digits

namespace Atelier.Xml

/-- An attribute of an element. -/
structure Attribute where
  /-- The namespace, if the name has a prefix. -/
  space : Option String
  /-- The name without its prefix. -/
  name : String
  value : String
deriving DecidableEq, Repr

/-- A node of a document. -/
inductive Node where
  /-- An element, by its name without a prefix. -/
  | element (name : String) (attributes : List Attribute) (children : List Node)
  | text (s : String)
  | comment (s : String)
  /-- A processing instruction, by its target. -/
  | instruction (target : String)

namespace Node

instance : Inhabited Node := ⟨.text ""⟩

/-- The value of the attribute that has a name and no namespace. -/
def attribute? (attributes : List Attribute) (name : String) : Option String :=
  (attributes.find? fun a => a.space = none ∧ a.name = name).map (·.value)

end Node

/-! ## Character classes -/

/-- Whether a document may hold a character. -/
def isXmlChar (c : Char) : Bool :=
  let n := c.toNat
  if n < 0x20 then n == 0x9 || n == 0xA || n == 0xD else n != 0xFFFE && n != 0xFFFF

/-- White space. -/
def isSpace (c : Char) : Bool :=
  c = ' ' || c = '\t' || c = '\n' || c = '\r'

/-- Whether a name may start with a character. -/
def isNameStart (c : Char) : Bool :=
  let n := c.toNat
  c.isAlpha || c = ':' || c = '_' || (0xC0 ≤ n && n ≤ 0xD6) || (0xD8 ≤ n && n ≤ 0xF6)
    || (0xF8 ≤ n && n ≤ 0x2FF) || (0x370 ≤ n && n ≤ 0x37D) || (0x37F ≤ n && n ≤ 0x1FFF)
    || (0x200C ≤ n && n ≤ 0x200D) || (0x2070 ≤ n && n ≤ 0x218F) || (0x2C00 ≤ n && n ≤ 0x2FEF)
    || (0x3001 ≤ n && n ≤ 0xD7FF) || (0xF900 ≤ n && n ≤ 0xFDCF) || (0xFDF0 ≤ n && n ≤ 0xFFFD)
    || (0x10000 ≤ n && n ≤ 0xEFFFF)

/-- Whether a name may hold a character. -/
def isNameChar (c : Char) : Bool :=
  let n := c.toNat
  isNameStart c || c.isDigit || c = '-' || c = '.' || n == 0xB7 || (0x300 ≤ n && n ≤ 0x36F)
    || (0x203F ≤ n && n ≤ 0x2040)

/-! ## References -/

/-- The number that digits stand for in a base up to sixteen. -/
def numeral? (base : Nat) (digits : List Char) : Option Nat :=
  if digits.isEmpty then none else valueIn? base digits

/-- The character with a number of at most 32 bits, if a document may hold it.  A number that
no character has stands for the replacement character. -/
def characterOf? (n : Nat) : Option Char :=
  let c := if n.isValidChar then Char.ofNat n else '\uFFFD'
  if n < UInt32.size ∧ isXmlChar c then some c else none

/-- The character that a reference stands for, given what is between `&` and `;`. -/
def reference? (name : List Char) : Option Char :=
  if name = "amp".toList then some '&'
  else if name = "lt".toList then some '<'
  else if name = "gt".toList then some '>'
  else if name = "quot".toList then some '"'
  else if name = "apos".toList then some '\''
  else
    match name with
    | '#' :: 'x' :: digits => (numeral? 16 digits).bind characterOf?
    | '#' :: digits => (numeral? 10 digits).bind characterOf?
    | _ => none

end Atelier.Xml
