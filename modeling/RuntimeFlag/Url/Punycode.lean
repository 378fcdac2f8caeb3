/-!
# Punycode

A label beyond ASCII as a label in ASCII. The other characters are written after the ASCII ones, in
the order of their code points, each as the number of steps from the one before it.
-/
namespace RuntimeFlag.Punycode

def digit (n : Nat) : Char := Char.ofNat (if n < 26 then 97 + n else 22 + n)

def value? (c : Char) : Option Nat :=
  if 'a' ≤ c && c ≤ 'z' then some (c.toNat - 97)
  else if '0' ≤ c && c ≤ '9' then some (c.toNat - 22)
  else none

/-- The digits below this one end a number; `weight` grows by 36 with each digit. -/
def threshold (bias weight : Nat) : Nat := max 1 (min 26 (weight - bias))

private theorem threshold_pos (bias weight : Nat) : 0 < threshold bias weight := by
  unfold threshold
  omega

private def shrink (delta shift : Nat) : Nat × Nat :=
  if 455 < delta then shrink (delta / 35) (shift + 36) else (delta, shift)
termination_by delta
decreasing_by exact Nat.div_lt_self (by omega) (by omega)

/-- The bias after a number of steps, when `count` characters are there. -/
def adapt (delta count : Nat) (isFirst : Bool) : Nat :=
  let halved := delta / if isFirst then 700 else 2
  let (rest, shift) := shrink (halved + halved / count) 0
  shift + 36 * rest / (rest + 38)

/-- A number of steps in digits. -/
def writeSteps (bias weight n : Nat) : List Char :=
  let t := threshold bias weight
  if n < t then [digit n]
  else digit (t + (n - t) % (36 - t)) :: writeSteps bias (weight + 36) ((n - t) / (36 - t))
termination_by n
decreasing_by
  have h := threshold_pos bias weight
  exact Nat.lt_of_le_of_lt (Nat.div_le_self _ _) (by omega)

/-- The state of writing: the text, the steps since the last character, the bias, and how many
characters are written. -/
private structure Writing where
  text : List Char
  steps : Nat
  bias : Nat
  count : Nat

/-- Passes one character of the label, on the round for a code point. -/
private def pass (isFirst : Nat → Bool) (code : Nat) (w : Writing) (c : Char) : Writing :=
  if c.toNat < code then { w with steps := w.steps + 1 }
  else if c.toNat = code then
    { text := w.text ++ writeSteps w.bias 36 w.steps
      steps := 0
      bias := adapt w.steps (w.count + 1) (isFirst w.count)
      count := w.count + 1 }
  else w

/-- Writes the rounds for the code points that are left, in ascending order. -/
private def rounds (label : List Char) (isFirst : Nat → Bool) :
    Nat → List Nat → Writing → List Char
  | _, [], w => w.text
  | low, code :: codes, w =>
    let skipped := { w with steps := w.steps + (code - low) * (w.count + 1) }
    let passed := label.foldl (pass isFirst code) skipped
    rounds label isFirst (code + 1) codes { passed with steps := passed.steps + 1 }

private def insertCode (n : Nat) : List Nat → List Nat
  | [] => [n]
  | m :: rest =>
    if n < m then n :: m :: rest else if n = m then m :: rest else m :: insertCode n rest

private def isBasic (c : Char) : Bool := c.toNat < 0x80

/-- A label in ASCII letters, digits and hyphens. -/
def encode (label : List Char) : List Char :=
  let basic := label.filter isBasic
  let codes := ((label.filter (!isBasic ·)).map Char.toNat).foldr insertCode []
  let start := if basic.isEmpty then [] else basic ++ ['-']
  rounds label (· == basic.length) 0x80 codes ⟨start, 0, 72, basic.length⟩

/-- Reads a number of steps. -/
private def readSteps (bias : Nat) : Nat → Nat → Nat → List Char → Option (Nat × List Char)
  | _, _, _, [] => none
  | weight, factor, n, c :: rest => do
    let d ← value? c
    let t := threshold bias weight
    let n := n + d * factor
    if d < t then pure (n, rest) else readSteps bias (weight + 36) (factor * (36 - t)) n rest

/-- Puts characters into a label as long as steps are left to read, from a code point and a position
on. -/
private def fill : Nat → Nat → Nat → Nat → List Char → List Char → Option (List Char)
  | 0, _, _, _, _, _ => none
  | _ + 1, _, _, _, label, [] => some label
  | fuel + 1, code, position, bias, label, cs => do
    let (steps, rest) ← readSteps bias 36 1 0 cs
    let count := label.length + 1
    let place := position + steps
    let code := code + place / count
    if !Nat.isValidChar code then none
    else
      fill fuel code (place % count + 1) (adapt steps count (position = 0))
        (label.insertIdx (place % count) (Char.ofNat code)) rest

/-- The label that an ASCII text of lower case writes. The last hyphen stands behind the ASCII
characters of the label; where there are none it is not written. -/
def decode? (cs : List Char) : Option (List Char) :=
  let steps := (cs.reverse.takeWhile (· ≠ '-')).reverse
  let basic := cs.take (cs.length - steps.length - 1)
  if basic.isEmpty && cs.head? = some '-' then none
  else fill cs.length.succ 0x80 0 72 basic steps

end RuntimeFlag.Punycode
