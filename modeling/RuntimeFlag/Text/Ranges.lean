import RuntimeFlag.Text.Hex
/-!
# Ranges of characters

A set of code points as a table of closed ranges, and a table of classes, each with its ranges. A
table is written as a text, with blanks between the ranges and every code point in hexadecimal
digits: `AD 300-36F`.
-/
namespace RuntimeFlag.Text

/-- Closed ranges of code points. -/
abbrev Ranges := Array (Nat × Nat)

def Ranges.has (ranges : Ranges) (n : Nat) : Bool :=
  ranges.any fun (low, high) => low ≤ n && n ≤ high

/-- The words of a text, between blanks and line ends. -/
def words (text : String) : List (List Char) :=
  (text.toList.splitOnP Char.isWhitespace).filter (!·.isEmpty)

/-- Reads one code point, or the first and the last of a range. -/
def range? (word : List Char) : Option (Nat × Nat) :=
  match (word.splitOn '-').mapM hexNumber? with
  | some [n] => some (n, n)
  | some [low, high] => some (low, high)
  | _ => none

def Ranges.ofText (text : String) : Ranges :=
  ((words text).filterMap range?).toArray

abbrev Classes (α : Type) := List (α × Ranges)

/-- The first class that has a code point. -/
def Classes.find? {α : Type} (classes : Classes α) (n : Nat) : Option α :=
  (List.find? (fun (_, ranges) => Ranges.has ranges n) classes).map (·.1)

end RuntimeFlag.Text
