import RuntimeFlag.Json.Fault
/-!
# Documents

What can be read of a JSON text, up to the place where its form breaks. A document keeps faults
where they stand, because whether one matters depends on who looks: a value that is skipped may
hold a number out of range or a text that is not well formed, and some broken forms are reported
differently when they are skipped.
-/
namespace RuntimeFlag.Json

/-- How the items of a list end. -/
inductive ListEnd
  | closed
  /-- The text ends after `[` or after an item. -/
  | cut
  /-- The list is closed right after a comma. -/
  | closedAfterComma
  | cutAfterComma
  /-- Neither a comma nor the end of the list follows an item. -/
  | noComma
  /-- The last item is broken. -/
  | unreached
  deriving DecidableEq, Repr

/-- How the members of an object end. -/
inductive ObjectEnd
  | closed
  /-- The text ends after `{` or after a member. -/
  | cut
  | closedAfterComma
  | cutAfterComma
  /-- Something other than a key stands where a key must start. -/
  | noKey
  /-- A key is broken: its fault when it is read, and when it is skipped. -/
  | brokenKey (read skipped : Fault)
  | noComma
  /-- The value of the last member is broken. -/
  | unreached

/-- A JSON text as far as it has a form. -/
inductive Doc
  | null
  | flag (value : Bool)
  | number (value : Except Fault Number)
  | text (value : Except Fault String)
  | list (items : List Doc) (ending : ListEnd)
  | object (members : List (Except Fault String × Doc)) (ending : ObjectEnd)
  /-- No value: the fault when one is read, and when one is skipped. -/
  | broken (read skipped : Fault)
  deriving Inhabited

/-- The fault of the end of a list whose items are read. -/
def ListEnd.fault? : ListEnd → Option Fault
  | .closed => none
  | .cut => some (.endOfText .list)
  | .closedAfterComma => some .trailingComma
  | .cutAfterComma => some (.endOfText .value)
  | .noComma | .unreached => some .expectedItemEnd

/-- The fault of the end of a list whose items are skipped. -/
def ListEnd.skipFault? : ListEnd → Option Fault
  | .closedAfterComma => some .expectedValue
  | ending => ending.fault?

/-- The fault of the end of a list after the last item that is wanted. -/
def ListEnd.excessFault? : ListEnd → Option Fault
  | .closed => none
  | .cut => some (.endOfText .list)
  | .closedAfterComma => some .trailingComma
  | .cutAfterComma | .noComma | .unreached => some .trailingText

def ObjectEnd.fault? : ObjectEnd → Option Fault
  | .closed => none
  | .cut => some (.endOfText .object)
  | .closedAfterComma => some .trailingComma
  | .cutAfterComma => some (.endOfText .value)
  | .noKey => some .expectedKey
  | .brokenKey read _ => some read
  | .noComma | .unreached => some .expectedMemberEnd

def ObjectEnd.skipFault? : ObjectEnd → Option Fault
  | .closedAfterComma => some .expectedKey
  | .cutAfterComma => some (.endOfText .object)
  | .brokenKey _ skipped => some skipped
  | ending => ending.fault?

mutual

/-- The first fault of a document that is skipped; `none` when its form is whole. -/
def Doc.skipFault? : Doc → Option Fault
  | .null | .flag _ | .number _ | .text _ => none
  | .list items ending => (skipFaultOfItems? items).or ending.skipFault?
  | .object members ending => (skipFaultOfMembers? members).or ending.skipFault?
  | .broken _ skipped => some skipped

def skipFaultOfItems? : List Doc → Option Fault
  | [] => none
  | item :: rest => item.skipFault?.or (skipFaultOfItems? rest)

def skipFaultOfMembers? : List (Except Fault String × Doc) → Option Fault
  | [] => none
  | (_, value) :: rest => value.skipFault?.or (skipFaultOfMembers? rest)

end

end RuntimeFlag.Json
