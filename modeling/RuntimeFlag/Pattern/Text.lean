import RuntimeFlag.Pattern.Meaning
import RuntimeFlag.Pattern.Reader
import RuntimeFlag.Pattern.Room
/-!
# Patterns from texts

The usual notation of regular expressions, and why a text is refused as one.
-/
namespace RuntimeFlag.Pattern

/-- Why a text is refused as a pattern. -/
inductive Refusal
  | faulty (text : String) (fault : Fault)
  | tooLarge
  | wordsUnknown
  deriving DecidableEq, Repr

def Refusal.message : Refusal → String
  | .faulty text fault => fault.report text
  | .tooLarge =>
    "Compiled regex exceeds size limit of " ++ Text.decimal roomLimit ++ " bytes."
  | .wordsUnknown => "error building NFA"

/-- Whether a pattern depends on the words of all letters, which are not known. -/
def needsAllWords : Pattern → Bool
  | .place (.word _ isAscii) => !isAscii
  | .empty | .char _ | .place _ => false
  | .sequence first second => first.needsAllWords || second.needsAllWords
  | .either left right => left.needsAllWords || right.needsAllWords
  | .repeated body _ _ => body.needsAllWords
  | .group body => body.needsAllWords

/-- The pattern that a text writes. -/
def ofText (text : String) : Except Refusal Pattern :=
  match (Written.ofText text).bind (Written.toPattern .default) with
  | .error fault => .error (.faulty text fault)
  | .ok (pattern, _) =>
    if roomLimit < pattern.room false then .error .tooLarge
    else if pattern.needsAllWords then .error .wordsUnknown
    else if roomLimit < pattern.room true then .error .tooLarge
    else .ok pattern

end RuntimeFlag.Pattern
