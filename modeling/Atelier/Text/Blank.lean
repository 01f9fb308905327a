/-
White space of Unicode: the characters with the property White_Space.
-/

namespace Atelier

/-- Whether a character has the property White_Space. -/
def isBlank (c : Char) : Bool :=
  let n := c.toNat
  (9 ≤ n && n ≤ 13) || n == 0x20 || n == 0x85 || n == 0xA0 || n == 0x1680
    || (0x2000 ≤ n && n ≤ 0x200A) || n == 0x2028 || n == 0x2029 || n == 0x202F
    || n == 0x205F || n == 0x3000

/-- A text without the white space it starts with. -/
def trimStart (text : List Char) : List Char :=
  text.dropWhile isBlank

/-- A text without those of its last characters that satisfy `p`. -/
def dropEnd (p : Char → Bool) (text : List Char) : List Char :=
  (text.reverse.dropWhile p).reverse

/-- A text without the white space around it. -/
def trim (text : List Char) : List Char :=
  dropEnd isBlank (trimStart text)

/-- Whether a text holds nothing but white space. -/
def blank (text : String) : Bool :=
  text.toList.all isBlank

end Atelier
