/-!
# Values in messages

Numbers in decimal digits, and truth values as words.
-/
namespace RuntimeFlag.Text

/-- A number in decimal digits. -/
def decimal (n : Nat) : String := String.ofList (Nat.toDigits 10 n)

/-- A truth value as a word. -/
def truth (b : Bool) : String := if b then "true" else "false"

end RuntimeFlag.Text
