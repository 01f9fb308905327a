/-
A text in quotes, for messages: what cannot be seen in print is written as an escape.
-/
import Atelier.Text.Digits
import Atelier.Text.Visible

namespace Atelier

/-- A character as it stands between quotes. -/
def quoteChar (c : Char) : List Char :=
  match c with
  | '"' => ['\\', '"']
  | '\\' => ['\\', '\\']
  | '\n' => ['\\', 'n']
  | '\r' => ['\\', 'r']
  | '\t' => ['\\', 't']
  | '\x00' => ['\\', '0']
  | c => if isSeen c then [c] else '\\' :: 'u' :: '\x7b' :: (hexText c.toNat ++ ['\x7d'])

/-- A text between quotes. -/
def quoted (text : String) : String :=
  String.ofList ('"' :: (text.toList.flatMap quoteChar ++ ['"']))

end Atelier
