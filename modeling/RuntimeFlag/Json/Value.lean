import RuntimeFlag.Text.Hex
/-!
# Writing JSON

Values and their written forms: `compact` without any blank, `pretty` with one member or item a
line and two spaces of indent. In strings only quotes, backslashes and controls are escaped.
-/
namespace RuntimeFlag.Json

inductive Value
  | null
  | flag (value : Bool)
  | integer (value : Int)
  | text (value : String)
  | list (items : List Value)
  | object (members : List (String × Value))
  deriving Inhabited

def escape (c : Char) : List Char :=
  match c with
  | '"' => ['\\', '"']
  | '\\' => ['\\', '\\']
  | '\x08' => ['\\', 'b']
  | '\x0c' => ['\\', 'f']
  | '\n' => ['\\', 'n']
  | '\r' => ['\\', 'r']
  | '\t' => ['\\', 't']
  | c =>
    if c.toNat < 0x20 then
      ['\\', 'u', '0', '0', Text.lowerHexDigit (c.toNat / 16), Text.lowerHexDigit (c.toNat % 16)]
    else [c]

/-- A text as a string between quotes. -/
def writeText (s : String) : List Char :=
  '"' :: s.toList.flatMap escape ++ ['"']

def writeFlag (b : Bool) : List Char :=
  if b then ['t', 'r', 'u', 'e'] else ['f', 'a', 'l', 's', 'e']

def writeInteger (i : Int) : List Char :=
  if i < 0 then '-' :: Nat.toDigits 10 i.natAbs else Nat.toDigits 10 i.natAbs

/-- The end of a line and the indent of the next one. -/
def newLine (indent : Nat) : List Char :=
  '\n' :: List.replicate (2 * indent) ' '

mutual

/-- The written form without blanks. -/
def Value.compactChars : Value → List Char
  | .null => ['n', 'u', 'l', 'l']
  | .flag b => writeFlag b
  | .integer i => writeInteger i
  | .text s => writeText s
  | .list [] => ['[', ']']
  | .list (item :: items) => '[' :: item.compactChars ++ compactItems items
  | .object [] => ['\x7b', '\x7d']
  | .object ((key, value) :: members) =>
    '\x7b' :: writeText key ++ ':' :: value.compactChars ++ compactMembers members

def compactItems : List Value → List Char
  | [] => [']']
  | item :: items => ',' :: item.compactChars ++ compactItems items

def compactMembers : List (String × Value) → List Char
  | [] => ['\x7d']
  | (key, value) :: members =>
    ',' :: writeText key ++ ':' :: value.compactChars ++ compactMembers members

end

mutual

/-- The written form on lines of their own, the first of which is already indented. -/
def Value.prettyChars (indent : Nat) : Value → List Char
  | .null => ['n', 'u', 'l', 'l']
  | .flag b => writeFlag b
  | .integer i => writeInteger i
  | .text s => writeText s
  | .list [] => ['[', ']']
  | .list (item :: items) =>
    '[' :: newLine (indent + 1) ++ item.prettyChars (indent + 1) ++ prettyItems indent items
  | .object [] => ['\x7b', '\x7d']
  | .object ((key, value) :: members) =>
    '\x7b' :: newLine (indent + 1) ++ writeText key ++ ':' :: ' ' ::
      value.prettyChars (indent + 1) ++ prettyMembers indent members

def prettyItems (indent : Nat) : List Value → List Char
  | [] => newLine indent ++ [']']
  | item :: items =>
    ',' :: newLine (indent + 1) ++ item.prettyChars (indent + 1) ++ prettyItems indent items

def prettyMembers (indent : Nat) : List (String × Value) → List Char
  | [] => newLine indent ++ ['\x7d']
  | (key, value) :: members =>
    ',' :: newLine (indent + 1) ++ writeText key ++ ':' :: ' ' ::
      value.prettyChars (indent + 1) ++ prettyMembers indent members

end

def Value.compact (v : Value) : String := String.ofList v.compactChars

def Value.pretty (v : Value) : String := String.ofList (v.prettyChars 0)

end RuntimeFlag.Json
