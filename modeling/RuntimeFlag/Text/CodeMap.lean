import RuntimeFlag.Text.Ranges
/-!
# Maps of code points

A map from code points to texts as a table of runs. A run takes every code point, or every second
one, to the text that stands for the first of them, counted on by as much. A table is written as a
text, with blanks between the runs: `41-5A=61 100-12E/2=101 BD=31,2044,32`.
-/
namespace RuntimeFlag.Text

/-- Code points at equal distances and the text of the first one. -/
structure CodeRun where
  first : Nat
  last : Nat
  step : Nat
  text : List Nat
  deriving DecidableEq, Repr

def CodeRun.get? (run : CodeRun) (n : Nat) : Option (List Nat) :=
  if run.first ≤ n ∧ n ≤ run.last ∧ (n - run.first) % run.step = 0 then
    some (run.text.map (· + (n - run.first)))
  else none

private def run? (word : List Char) : Option CodeRun :=
  match word.splitOn '=' with
  | [codes, target] => do
    let target ← (target.splitOn ',').mapM hexNumber?
    let (codes, step) :=
      match codes.splitOn '/' with
      | [codes, _] => (codes, 2)
      | _ => (codes, 1)
    match ← (codes.splitOn '-').mapM hexNumber? with
    | [n] => pure ⟨n, n, step, target⟩
    | [first, last] => pure ⟨first, last, step, target⟩
    | _ => none
  | _ => none

abbrev CodeMap := Array CodeRun

def CodeMap.ofText (text : String) : CodeMap :=
  ((words text).filterMap run?).toArray

def CodeMap.get? (map : CodeMap) (n : Nat) : Option (List Nat) :=
  map.findSome? (·.get? n)

/-- The code point that is listed for a text. -/
def CodeMap.code? (map : CodeMap) (text : List Nat) : Option Nat :=
  (map.find? (·.text = text)).map (·.first)

end RuntimeFlag.Text
