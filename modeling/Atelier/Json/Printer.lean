/-
JSON values as text, on one line (`compact`) or with a line for each member (`pretty`).
-/
import Atelier.Json.Basic

namespace Atelier.Json

/-- A character inside a string: the quote, the backslash and control characters escaped. -/
def escapeChar (c : Char) : List Char :=
  match c with
  | '"' => ['\\', '"']
  | '\\' => ['\\', '\\']
  | '\x08' => ['\\', 'b']
  | '\x0c' => ['\\', 'f']
  | '\n' => ['\\', 'n']
  | '\r' => ['\\', 'r']
  | '\t' => ['\\', 't']
  | c =>
    if c.toNat < 0x20 then
      ['\\', 'u', '0', '0', Nat.digitChar (c.toNat / 16), Nat.digitChar (c.toNat % 16)]
    else [c]

/-- A string in quotes. -/
def stringText (s : String) : List Char :=
  '"' :: (s.toList.flatMap escapeChar ++ ['"'])

/-! ## On one line -/

mutual

/-- The text without any white space. -/
def compactText : Json → List Char
  | .null => "null".toList
  | .bool true => "true".toList
  | .bool false => "false".toList
  | .num n => n.text
  | .str s => stringText s
  | .arr [] => ['[', ']']
  | .arr (v :: rest) => '[' :: (compactText v ++ compactItems rest ++ [']'])
  | .obj [] => ['{', '}']
  | .obj ((k, v) :: rest) =>
    '{' :: (stringText k ++ ':' :: (compactText v ++ compactMembers rest ++ ['}']))
  | .unreadable => "null".toList

/-- The items after the first. -/
def compactItems : List Json → List Char
  | [] => []
  | v :: rest => ',' :: (compactText v ++ compactItems rest)

/-- The members after the first. -/
def compactMembers : List (String × Json) → List Char
  | [] => []
  | (k, v) :: rest => ',' :: (stringText k ++ ':' :: (compactText v ++ compactMembers rest))

end

/-- The text without any white space. -/
def compact (v : Json) : String :=
  String.ofList v.compactText

/-! ## With a line for each item -/

/-- The end of a line and the indentation of the next, two spaces for each level. -/
def newline (depth : Nat) : List Char :=
  '\n' :: List.replicate (2 * depth) ' '

mutual

/-- The text of a value that stands `depth` containers deep. -/
def prettyText (depth : Nat) : Json → List Char
  | .null => "null".toList
  | .bool true => "true".toList
  | .bool false => "false".toList
  | .num n => n.text
  | .str s => stringText s
  | .arr [] => ['[', ']']
  | .arr (v :: rest) =>
    '[' :: (newline (depth + 1) ++ prettyText (depth + 1) v ++ prettyItems (depth + 1) rest
      ++ newline depth ++ [']'])
  | .obj [] => ['{', '}']
  | .obj ((k, v) :: rest) =>
    '{' :: (newline (depth + 1) ++ stringText k ++ ':' :: ' ' ::
      (prettyText (depth + 1) v ++ prettyMembers (depth + 1) rest ++ newline depth ++ ['}']))
  | .unreadable => "null".toList

/-- The items after the first of an array whose items stand `depth` containers deep. -/
def prettyItems (depth : Nat) : List Json → List Char
  | [] => []
  | v :: rest => ',' :: (newline depth ++ prettyText depth v ++ prettyItems depth rest)

/-- The members after the first of an object whose members stand `depth` containers deep. -/
def prettyMembers (depth : Nat) : List (String × Json) → List Char
  | [] => []
  | (k, v) :: rest =>
    ',' :: (newline depth ++ stringText k ++ ':' :: ' ' ::
      (prettyText depth v ++ prettyMembers depth rest))

end

/-- The text with a line for each item and member, each level indented by two spaces. -/
def pretty (v : Json) : String :=
  String.ofList (v.prettyText 0)

end Atelier.Json
