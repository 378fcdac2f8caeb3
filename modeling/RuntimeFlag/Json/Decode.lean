import RuntimeFlag.Json.Reader
/-!
# Decoding documents

A decoder reads a document as a value of one type and reports the first fault in the order of the
text. A record is an object of members, in any order, or a list of the same members in the order of
their declaration; members that a record does not know are skipped.
-/
namespace RuntimeFlag.Json

/-- A way to read a document as a value. -/
abbrev Decoder (α : Type) := Doc → Except Fault α

namespace Decoder

/-- What stands in place of a value of another kind. -/
def found : Doc → Except Fault Found
  | .null => .ok .null
  | .flag b => .ok (.flag b)
  | .number n => n.map .number
  | .text s => s.map .text
  | .list _ _ => .ok .list
  | .object _ _ => .ok .object
  | .broken read _ => .error read

def wrongKind {α : Type} (expected : String) (doc : Doc) : Except Fault α := do
  throw (.wrongKind (← found doc) expected)

def failIf (fault? : Option Fault) : Except Fault Unit :=
  match fault? with
  | some fault => .error fault
  | none => .ok ()

def text : Decoder String
  | .text content => content
  | doc => wrongKind "a string" doc

def flag : Decoder Bool
  | .flag b => .ok b
  | doc => wrongKind "a boolean" doc

/-- An integer of 64 bits with sign. -/
def integer : Decoder Int
  | .number (.ok (.natural n)) =>
    if n < 0x8000000000000000 then .ok n else wrongKind "an integer" (.number (.ok (.natural n)))
  | .number (.ok (.negative n)) => .ok (-n)
  | doc => wrongKind "an integer" doc

def optional {α : Type} (d : Decoder α) : Decoder (Option α)
  | .null => .ok none
  | doc => (d doc).map some

def list {α : Type} (d : Decoder α) : Decoder (List α)
  | .list items ending => do
    let values ← items.mapM d
    failIf ending.fault?
    pure values
  | doc => wrongKind "a sequence" doc

end Decoder

/-- A member of a record: its name, whether a draft of the record holds it already, and how its
value enters the draft. -/
structure Slot (δ : Type) where
  name : String
  filled : δ → Bool
  read : Doc → δ → Except Fault δ
  optional : Bool

/-- How a record is read: drafts start empty, slots fill them, and a draft with every needed member
makes the record. -/
structure Shape (δ α : Type) where
  title : String
  empty : δ
  slots : List (Slot δ)
  build : δ → Except Fault α

/-- A member that a draft keeps in one of its fields. -/
def Slot.ofField {δ β : Type} (name : String) (optional : Bool) (decoder : Decoder β)
    (field : δ → Option β) (set : δ → β → δ) : Slot δ where
  name := name
  filled draft := (field draft).isSome
  read doc draft := (decoder doc).map (set draft)
  optional := optional

/-- The value of a member that a record cannot do without. -/
def needed {β : Type} (name : String) : Option β → Except Fault β
  | some value => .ok value
  | none => .error (.missingMember name)

namespace Shape

variable {δ α : Type}

def readMembers (slots : List (Slot δ)) :
    List (Key × Doc) → ObjectEnd → δ → Except Fault δ
  | [], ending, draft => do
    Decoder.failIf ending.fault?
    pure draft
  | (key, value) :: rest, ending, draft => do
    let name ← key
    match slots.find? (·.name == name) with
    | some slot =>
      if slot.filled draft then throw (.repeatedMember name)
      else readMembers slots rest ending (← slot.read value draft)
    | none =>
      Decoder.failIf value.skipFault?
      readMembers slots rest ending draft

def lengthText (title : String) (count : Nat) : String :=
  title ++ " with " ++ Text.decimal count ++ (if count = 1 then " element" else " elements")

def readItems (expected : String) :
    Nat → List (Slot δ) → List Doc → ListEnd → δ → Except Fault δ
  | _, [], [], ending, draft => do
    Decoder.failIf ending.excessFault?
    pure draft
  | _, [], _ :: _, _, _ => throw .trailingText
  | index, slot :: slots, item :: items, ending, draft => do
    readItems expected (index + 1) slots items ending (← slot.read item draft)
  | index, slot :: slots, [], ending, draft => do
    Decoder.failIf ending.fault?
    if slot.optional then readItems expected (index + 1) slots [] ending draft
    else throw (.wrongLength index expected)

def decoder (shape : Shape δ α) : Decoder α
  | .object members ending => do
    shape.build (← readMembers shape.slots members ending shape.empty)
  | .list items ending => do
    let expected := lengthText shape.title shape.slots.length
    shape.build (← readItems expected 0 shape.slots items ending shape.empty)
  | doc => Decoder.wrongKind shape.title doc

end Shape

def decode {α : Type} (decoder : Decoder α) (bs : Bytes) : Except Fault α := do
  let value ← decoder (readDoc bs).1
  if (readDoc bs).2 then throw .trailingText
  pure value

end RuntimeFlag.Json
