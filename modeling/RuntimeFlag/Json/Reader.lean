import RuntimeFlag.Json.Doc
import RuntimeFlag.Json.TextScan
/-!
# Reading documents

The reader takes a text byte by byte and keeps the containers that are still open, so what it knows
about the start of a text is what it knows about the text that ends there. `Reading.finish` gives
the document; a text is a whole document exactly when the reading has closed its outermost value.
-/
namespace RuntimeFlag.Json

/-- A key with the fault of its content. -/
abbrev Key := Except Fault String

/-- Where a numeral can stop. -/
inductive NumeralPlace
  | sign
  | zero
  | whole
  | point
  | fraction
  | mark
  | markSign
  | exponent
  deriving DecidableEq, Repr

namespace NumeralPlace

def isDigit (b : UInt8) : Bool := 0x30 ≤ b && b ≤ 0x39

def afterWhole (b : UInt8) : Option NumeralPlace :=
  if b = 0x2E then some .point
  else if b = 0x65 || b = 0x45 then some .mark
  else none

def next? (p : NumeralPlace) (b : UInt8) : Option NumeralPlace :=
  match p with
  | .sign => if b = 0x30 then some .zero else if isDigit b then some .whole else none
  | .zero => afterWhole b
  | .whole => if isDigit b then some .whole else afterWhole b
  | .point => if isDigit b then some .fraction else none
  | .fraction =>
    if isDigit b then some .fraction else if b = 0x65 || b = 0x45 then some .mark else none
  | .mark =>
    if b = 0x2B || b = 0x2D then some .markSign else if isDigit b then some .exponent else none
  | .markSign | .exponent => if isDigit b then some .exponent else none

def complete (p : NumeralPlace) : Bool :=
  match p with
  | .zero | .whole | .fraction | .exponent => true
  | .sign | .point | .mark | .markSign => false

/-- Whether the numeral ends before a byte that does not continue it. -/
def endsBefore (p : NumeralPlace) (b : UInt8) : Bool :=
  p.complete && !(p = .zero && isDigit b)

end NumeralPlace

/-- A container with a place for the value that is being read. Lists hold what was read before,
last first. -/
inductive Frame
  | list (items : List Doc)
  | object (members : List (Key × Doc)) (key : Key)

/-- Where a reading stands, with what was read of the innermost container, last first. -/
inductive Place
  /-- A value must start. -/
  | value
  /-- A list is open; `comma` tells whether a comma was just read. -/
  | item (items : List Doc) (comma : Bool)
  | itemEnd (items : List Doc)
  | key (members : List (Key × Doc)) (comma : Bool)
  | keyText (members : List (Key × Doc)) (scan : TextScan)
  | colon (members : List (Key × Doc)) (key : Key)
  | memberEnd (members : List (Key × Doc))
  /-- Inside a word, with the bytes that must follow and the value it names. -/
  | word (left : Bytes) (meant : Doc)
  /-- Inside a numeral, with the bytes read, last first. -/
  | numeral (read : Bytes) (place : NumeralPlace)
  | text (scan : TextScan)

inductive Reading
  | inside (place : Place) (containers : List Frame)
  /-- The outermost value is closed; `more` tells whether something other than blanks follows. -/
  | closed (doc : Doc) (more : Bool)
  /-- The form is broken. -/
  | broken (doc : Doc)

def isSpace (b : UInt8) : Bool := b = 0x20 || b = 0x0A || b = 0x0D || b = 0x09

namespace Reading

/-- The whole document when a broken value stands in open containers. -/
def enclose : List Frame → Doc → Doc
  | [], doc => doc
  | .list items :: outer, doc => enclose outer (.list (items.reverse ++ [doc]) .unreached)
  | .object members key :: outer, doc =>
    enclose outer (.object (members.reverse ++ [(key, doc)]) .unreached)

def breakOff (outer : List Frame) (doc : Doc) : Reading :=
  .broken (enclose outer doc)

def fail (outer : List Frame) (fault : Fault) : Reading :=
  breakOff outer (.broken fault fault)

def endList (items : List Doc) (ending : ListEnd) : Doc :=
  .list items.reverse ending

def endObject (members : List (Key × Doc)) (ending : ObjectEnd) : Doc :=
  .object members.reverse ending

/-- Puts a complete value into its container. -/
def complete (doc : Doc) : List Frame → Reading
  | [] => .closed doc false
  | .list items :: outer => .inside (.itemEnd (doc :: items)) outer
  | .object members key :: outer => .inside (.memberEnd ((key, doc) :: members)) outer

def startValue (b : UInt8) (outer : List Frame) : Reading :=
  match Char.ofNat b.toNat with
  | '[' => .inside (.item [] false) outer
  | '\x7b' => .inside (.key [] false) outer
  | '"' => .inside (.text .start) outer
  | 't' => .inside (.word (Utf8.encode "rue") (.flag true)) outer
  | 'f' => .inside (.word (Utf8.encode "alse") (.flag false)) outer
  | 'n' => .inside (.word (Utf8.encode "ull") .null) outer
  | '-' => .inside (.numeral [b] .sign) outer
  | _ =>
    match NumeralPlace.sign.next? b with
    | some place => .inside (.numeral [b] place) outer
    | none => fail outer .expectedValue

/-- The value of a complete numeral, whose bytes come last first. -/
def numeralDoc (read : Bytes) : Doc :=
  match (Numeral.ofChars (read.reverse.map fun b => Char.ofNat b.toNat)).number? with
  | some n => .number (.ok n)
  | none => .number (.error .numberOutOfRange)

/-- Takes a byte at a place between values. -/
def stepBetween (b : UInt8) (outer : List Frame) : Place → Reading
  | .value => startValue b outer
  | .item items comma =>
    if b = 0x5D then
      if comma then breakOff outer (endList items .closedAfterComma)
      else complete (endList items .closed) outer
    else startValue b (.list items :: outer)
  | .itemEnd items =>
    if b = 0x5D then complete (endList items .closed) outer
    else if b = 0x2C then .inside (.item items true) outer
    else breakOff outer (endList items .noComma)
  | .key members comma =>
    if b = 0x22 then .inside (.keyText members .start) outer
    else if b = 0x7D then
      if comma then breakOff outer (endObject members .closedAfterComma)
      else complete (endObject members .closed) outer
    else breakOff outer (endObject members .noKey)
  | .colon members key =>
    if b = 0x3A then .inside .value (.object members key :: outer)
    else fail (.object members key :: outer) .expectedColon
  | .memberEnd members =>
    if b = 0x7D then complete (endObject members .closed) outer
    else if b = 0x2C then .inside (.key members true) outer
    else breakOff outer (endObject members .noComma)
  | .keyText _ _ | .word _ _ | .numeral _ _ | .text _ => fail outer .expectedValue

/-- Takes a byte after a value has been completed, or between values. -/
def stepSpaced (b : UInt8) (reading : Reading) : Reading :=
  if isSpace b then reading
  else match reading with
    | .inside place outer => stepBetween b outer place
    | .closed doc _ => .closed doc true
    | .broken doc => .broken doc

def step (reading : Reading) (b : UInt8) : Reading :=
  match reading with
  | .inside (.keyText members scan) outer =>
    match scan.step b with
    | .more scan => .inside (.keyText members scan) outer
    | .closed key => .inside (.colon members key) outer
    | .broken read skipped => breakOff outer (endObject members (.brokenKey read skipped))
  | .inside (.text scan) outer =>
    match scan.step b with
    | .more scan => .inside (.text scan) outer
    | .closed content => complete (.text content) outer
    | .broken read skipped => breakOff outer (.broken read skipped)
  | .inside (.word (expected :: left) meant) outer =>
    if b ≠ expected then fail outer .expectedWord
    else if left.isEmpty then complete meant outer
    else .inside (.word left meant) outer
  | .inside (.numeral read place) outer =>
    match place.next? b with
    | some place => .inside (.numeral (b :: read) place) outer
    | none =>
      if place.endsBefore b then stepSpaced b (complete (numeralDoc read) outer)
      else fail outer .invalidNumber
  | reading => stepSpaced b reading

def start : Reading := .inside .value []

def ofBytes (bs : Bytes) : Reading := bs.foldl step start

/-- The document when the text ends at a place. -/
def cutAt (outer : List Frame) : Place → Doc
  | .value => enclose outer (.broken (.endOfText .value) (.endOfText .value))
  | .item items comma => enclose outer (endList items (if comma then .cutAfterComma else .cut))
  | .itemEnd items => enclose outer (endList items .cut)
  | .key members comma =>
    enclose outer (endObject members (if comma then .cutAfterComma else .cut))
  | .keyText members scan =>
    enclose outer (endObject members (.brokenKey scan.cutFaults.1 scan.cutFaults.2))
  | .colon members key =>
    enclose (.object members key :: outer) (.broken (.endOfText .object) (.endOfText .object))
  | .memberEnd members => enclose outer (endObject members .cut)
  | .word _ _ => enclose outer (.broken (.endOfText .value) (.endOfText .value))
  | .numeral _ _ => enclose outer (.broken (.endOfText .value) .invalidNumber)
  | .text scan => enclose outer (.broken scan.cutFaults.1 scan.cutFaults.2)

/-- The document at the end of the text, and whether more than blanks follows it. -/
def finish : Reading → Doc × Bool
  | .closed doc more => (doc, more)
  | .broken doc => (doc, false)
  | .inside (.numeral read place) outer =>
    if place.complete then
      match complete (numeralDoc read) outer with
      | .inside place outer => (cutAt outer place, false)
      | .closed doc more => (doc, more)
      | .broken doc => (doc, false)
    else (cutAt outer (.numeral read place), false)
  | .inside place outer => (cutAt outer place, false)

end Reading

/-- The document of a text, and whether more than blanks follows it. -/
def readDoc (bs : Bytes) : Doc × Bool := (Reading.ofBytes bs).finish

end RuntimeFlag.Json
