import RuntimeFlag.Json.Number
import RuntimeFlag.Text.Plain
import RuntimeFlag.Text.Quoted
/-!
# Faults of a JSON text

Why a text is not the JSON that was asked for: its form is broken, or it holds a value of another
kind. `Fault.message` is the wording.
-/
namespace RuntimeFlag.Json

/-- The parts of a text that can be cut off by its end. -/
inductive Part
  | value
  | text
  | list
  | object
  deriving DecidableEq, Repr

def Part.name : Part → String
  | .value => "a value"
  | .text => "a string"
  | .list => "a list"
  | .object => "an object"

/-- A value that stands where another kind was asked for. -/
inductive Found
  | null
  | flag (value : Bool)
  | number (value : Number)
  | text (value : String)
  | list
  | object

def Found.describe : Found → String
  | .null => "null"
  | .flag b => "boolean `" ++ Text.truth b ++ "`"
  | .number (.natural n) => "integer `" ++ Text.decimal n ++ "`"
  | .number (.negative n) => "integer `-" ++ Text.decimal n ++ "`"
  | .number (.fraction x) => "floating point `" ++ fractionText x ++ "`"
  | .text s => "string " ++ Text.quoted s
  | .list => "sequence"
  | .object => "map"

inductive Fault
  | endOfText (inside : Part)
  | expectedValue
  | expectedWord
  | expectedColon
  | expectedItemEnd
  | expectedMemberEnd
  | expectedKey
  | invalidNumber
  | numberOutOfRange
  | invalidEscape
  | loneSurrogate
  | unpairedSurrogate
  | illFormedText
  | controlInText
  | trailingComma
  | trailingText
  | wrongKind (found : Found) (expected : String)
  | wrongLength (length : Nat) (expected : String)
  | missingMember (name : String)
  | repeatedMember (name : String)

def Fault.message : Fault → String
  | .endOfText inside => "EOF while parsing " ++ inside.name
  | .expectedValue => "expected value"
  | .expectedWord => "expected ident"
  | .expectedColon => "expected `:`"
  | .expectedItemEnd => "expected `,` or `]`"
  | .expectedMemberEnd => "expected `,` or `\x7d`"
  | .expectedKey => "key must be a string"
  | .invalidNumber => "invalid number"
  | .numberOutOfRange => "number out of range"
  | .invalidEscape => "invalid escape"
  | .loneSurrogate => "lone leading surrogate in hex escape"
  | .unpairedSurrogate => "unexpected end of hex escape"
  | .illFormedText => "invalid unicode code point"
  | .controlInText => "control character (\\u0000-\\u001F) found while parsing a string"
  | .trailingComma => "trailing comma"
  | .trailingText => "trailing characters"
  | .wrongKind found expected => "invalid type: " ++ found.describe ++ ", expected " ++ expected
  | .wrongLength length expected =>
    "invalid length " ++ Text.decimal length ++ ", expected " ++ expected
  | .missingMember name => "missing field `" ++ name ++ "`"
  | .repeatedMember name => "duplicate field `" ++ name ++ "`"

end RuntimeFlag.Json
