import RuntimeFlag.Text.Hex
import RuntimeFlag.Yaml.Node
/-!
# Typed values of nodes

What a node means where a value of one type is asked for. Only a plain scalar is taken for a number,
a truth value or nothing; a literal one is, if its tag says so.
-/
namespace RuntimeFlag.Yaml

private def coreTag (name : String) : List Char := "tag:yaml.org,2002:".toList ++ name.toList

/-- Whether a plain text is a word for nothing. -/
def isNullWord (text : List Char) : Bool :=
  ["null", "Null", "NULL", "~"].any (·.toList = text)

/-- The truth value that a plain text is a word for. -/
def flagWord? (text : List Char) : Option Bool :=
  if ["true", "True", "TRUE"].any (·.toList = text) then some true
  else if ["false", "False", "FALSE"].any (·.toList = text) then some false
  else none

private def digitBelow? (base : Nat) (c : Char) : Option Nat :=
  (Text.hexValue? c).filter (· < base)

/-- The number that digits write in a base, if there are any and it has at most 64 bits. -/
private def inBase? (base : Nat) (digits : List Char) : Option Nat :=
  if digits.isEmpty then none
  else
    let value := (digits.mapM (digitBelow? base)).map (·.foldl (· * base + ·) 0)
    value.filter (· < 0x10000000000000000)

/-- The natural number of 64 bits that a plain text writes: decimal digits without leading zeros, or
digits in another base after the letter of that base. A plus sign may stand in front. -/
def countWord? (text : List Char) : Option Nat :=
  let digits := if text.head? = some '+' then text.tail else text
  match digits with
  | '0' :: 'x' :: digits => inBase? 16 digits
  | '0' :: 'o' :: digits => inBase? 8 digits
  | '0' :: 'b' :: digits => inBase? 2 digits
  | '0' :: _ :: _ => none
  | digits => inBase? 10 digits

private def mayBe (name : String) (style : ScalarStyle) (tag : Option (List Char)) : Bool :=
  style = .plain || (style = .literal && tag = some (coreTag name))

namespace Node

def asText : Node → Except Fault String
  | .scalar _ _ text => .ok (String.ofList text)
  | _ => .error (.wrongKind "a string")

/-- The text of a scalar, or nothing. A tag other than that of nothing makes it a text. -/
def asTextOrNone : Node → Except Fault (Option String)
  | .scalar .plain none text =>
    .ok (if text.isEmpty || isNullWord text then none else some (String.ofList text))
  | .scalar .plain (some tag) text =>
    if tag ≠ coreTag "null" then .ok (some (String.ofList text))
    else if isNullWord text then .ok none
    else .error (.wrongKind "null")
  | node => node.asText.map some

def asFlag : Node → Except Fault Bool
  | .scalar style tag text =>
    match flagWord? text with
    | some flag => if mayBe "bool" style tag then .ok flag else .error (.wrongKind "a boolean")
    | none => .error (.wrongKind "a boolean")
  | _ => .error (.wrongKind "a boolean")

def asCount : Node → Except Fault Nat
  | .scalar style tag text =>
    match countWord? text with
    | some count => if mayBe "int" style tag then .ok count else .error (.wrongKind "a number")
    | none => .error (.wrongKind "a number")
  | _ => .error (.wrongKind "a number")

/-- The entries of a mapping; a node that is left out has none. -/
def asEntries : Node → Except Fault (List (Node × Node))
  | .mapping entries => .ok entries
  | .scalar .plain _ [] => .ok []
  | _ => .error (.wrongKind "a mapping")

/-- The entries of a mapping by the texts of their keys, with aliases as what they stand for. -/
def members (root node : Node) : Except Fault (List (String × Node)) := do
  let entries ← (root.content node).asEntries
  entries.mapM fun (key, value) => do
    pure (← (root.content key).asText, root.content value)

end Node

/-- The member of a name, which may be there once, read as a value. -/
def member? {α : Type} (name : String) (read : Node → Except Fault α)
    (members : List (String × Node)) : Except Fault (Option α) :=
  match members.filter (·.1 = name) with
  | [] => .ok none
  | [(_, node)] => (read node).map some
  | _ => .error (.repeatedKey name)

end RuntimeFlag.Yaml
