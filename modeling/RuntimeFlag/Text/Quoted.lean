import RuntimeFlag.Text.Hex
import RuntimeFlag.Text.Hidden
/-!
# Quoted texts in messages

A text between double quotes in which every character can be seen: quotes and backslashes follow a
backslash, common controls have a letter, and other hidden characters are written by number.
-/
namespace RuntimeFlag.Text

/-- How one character is written between quotes. -/
private def quotedChar (c : Char) : List Char :=
  match c with
  | '\t' => ['\\', 't']
  | '\r' => ['\\', 'r']
  | '\n' => ['\\', 'n']
  | '\x00' => ['\\', '0']
  | '"' => ['\\', '"']
  | '\\' => ['\\', '\\']
  | c =>
    if hidden.has c.toNat then ['\\', 'u', '\x7b'] ++ lowerHex c.toNat ++ ['\x7d'] else [c]

/-- The text between quotes, as messages show it. -/
def quoted (s : String) : String :=
  String.ofList ('"' :: s.toList.flatMap quotedChar ++ ['"'])

end RuntimeFlag.Text
