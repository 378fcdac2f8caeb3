import RuntimeFlag.Json.Fault
import RuntimeFlag.Text.Utf8
/-!
# Scanning a JSON string

A string is scanned byte by byte after its opening quote. A broken escape ends the scan; an escape
that names half of a surrogate pair without the other half does not, because only a reader of the
content minds it.
-/
namespace RuntimeFlag.Json

inductive TextPlace
  | plain
  /-- Right after a backslash. -/
  | escape
  /-- Inside `\u`, with the bytes read of its four digits, last first. -/
  | hex (digits : Bytes)

structure TextScan where
  place : TextPlace
  /-- The content, last byte first. -/
  content : Bytes
  /-- The first half of a surrogate pair whose second half must follow. -/
  lead : Option Nat
  /-- The first fault of the content. -/
  fault : Option Fault

/-- What one byte does to a scan. -/
inductive TextStep
  | more (scan : TextScan)
  | closed (content : Except Fault String)
  | broken (read skipped : Fault)

namespace TextScan

/-- A scan right after the opening quote. -/
def start : TextScan := ⟨.plain, [], none, none⟩

def record (scan : TextScan) (fault : Fault) : TextScan :=
  { scan with fault := scan.fault.or (some fault), lead := none }

/-- A scan whose pending half of a pair stays alone. -/
def dropLead (scan : TextScan) : TextScan :=
  if scan.lead.isSome then scan.record .unpairedSurrogate else scan

def push (scan : TextScan) (bytes : Bytes) : TextScan :=
  { scan with place := .plain, content := bytes.reverse ++ scan.content }

def breakAt (scan : TextScan) (fault : Fault) : TextStep :=
  .broken (scan.fault.getD fault) fault

def close (scan : TextScan) : Except Fault String :=
  match scan.fault with
  | some fault => .error fault
  | none => match Utf8.decode? scan.content.reverse with
    | some s => .ok s
    | none => .error .illFormedText

def stepPlain (scan : TextScan) (b : UInt8) : TextStep :=
  if b = 0x5C then .more { scan with place := .escape }
  else
    let scan := scan.dropLead
    if b = 0x22 then .closed scan.close
    else if b < 0x20 then scan.breakAt .controlInText
    else .more (scan.push [b])

/-- The byte that a letter after a backslash stands for. -/
def escaped? (b : UInt8) : Option UInt8 :=
  match Char.ofNat b.toNat with
  | '"' => some 0x22
  | '\\' => some 0x5C
  | '/' => some 0x2F
  | 'b' => some 0x08
  | 'f' => some 0x0C
  | 'n' => some 0x0A
  | 'r' => some 0x0D
  | 't' => some 0x09
  | _ => none

def stepEscape (scan : TextScan) (b : UInt8) : TextStep :=
  if b = 0x75 then .more { scan with place := .hex [] }
  else
    let scan := scan.dropLead
    match escaped? b with
    | some byte => .more (scan.push [byte])
    | none => scan.breakAt .invalidEscape

/-- The value of hexadecimal digits, last digit first. -/
def hexUnit? : Bytes → Option Nat
  | [] => some 0
  | b :: rest => do
    let high ← hexUnit? rest
    let low ← Text.hexValue? (Char.ofNat b.toNat)
    pure (high * 16 + low)

def isLead (unit : Nat) : Bool := 0xD800 ≤ unit && unit ≤ 0xDBFF

def isTrail (unit : Nat) : Bool := 0xDC00 ≤ unit && unit ≤ 0xDFFF

/-- Takes the 16-bit unit of a finished escape. -/
def takeUnit (scan : TextScan) (unit : Nat) : TextScan :=
  let scan := { scan with place := .plain }
  match scan.lead with
  | some lead =>
    if isTrail unit then
      { scan with lead := none }.push
        (Utf8.encodeChar (Char.ofNat (0x10000 + (lead - 0xD800) * 0x400 + (unit - 0xDC00))))
    else scan.record .loneSurrogate
  | none =>
    if isTrail unit then scan.record .loneSurrogate
    else if isLead unit then { scan with lead := some unit }
    else scan.push (Utf8.encodeChar (Char.ofNat unit))

def stepHex (scan : TextScan) (digits : Bytes) (b : UInt8) : TextStep :=
  if digits.length < 3 then .more { scan with place := .hex (b :: digits) }
  else match hexUnit? (b :: digits) with
    | some unit => .more (scan.takeUnit unit)
    | none => scan.breakAt .invalidEscape

def step (scan : TextScan) (b : UInt8) : TextStep :=
  match scan.place with
  | .plain => scan.stepPlain b
  | .escape => scan.stepEscape b
  | .hex digits => scan.stepHex digits b

/-- The faults of a string that the end of the text cuts off: when it is read, and when it is
skipped. -/
def cutFaults (scan : TextScan) : Fault × Fault :=
  (scan.fault.getD (.endOfText .text), .endOfText .text)

end TextScan

end RuntimeFlag.Json
