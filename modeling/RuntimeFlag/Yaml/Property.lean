import RuntimeFlag.Text.Utf8
import RuntimeFlag.Yaml.Scalar
/-!
# Anchors, tags and directives

What may stand before a node or a document. A tag is written as a handle, which stands for a prefix,
and a suffix.
-/
namespace RuntimeFlag.Yaml

/-- A tag as it is written. Without a handle the suffix is the whole tag. -/
structure TagText where
  handle : List Char
  suffix : List Char
  deriving DecidableEq, Repr

/-- A line of its own before a document. -/
inductive Directive
  | version (major minor : Nat)
  | tagPrefix (handle tag : List Char)
  deriving DecidableEq, Repr

/-- Reads the name of an anchor or an alias, after its indicator. -/
def anchorName (cs : List Char) : Except Fault (List Char × List Char) :=
  let (name, rest) := cs.span isNameChar
  let ended := atGap rest || rest.head?.any fun c => "?:,]\x7d%@`".toList.contains c
  if name.isEmpty || !ended then .error .badAnchor else .ok (name, rest)

private def isTagChar (verbatim : Bool) (c : Char) : Bool :=
  isNameChar c || ";/?:@&=+$.!~*'()".toList.contains c || (verbatim && ",[]".toList.contains c)

/-- The byte that an escape at the start of a text stands for, and what follows it. -/
private def escapedByte? : List Char → Option (Nat × List Char)
  | '%' :: high :: low :: rest => do
    pure ((← Text.hexValue? high) * 16 + (← Text.hexValue? low), rest)
  | _ => none

/-- The number of bytes of the character that a byte begins. -/
private def widthOf? (byte : Nat) : Option Nat :=
  if byte < 0x80 then some 1
  else if 0xC0 ≤ byte && byte < 0xE0 then some 2
  else if 0xE0 ≤ byte && byte < 0xF0 then some 3
  else if 0xF0 ≤ byte && byte < 0xF8 then some 4
  else none

/-- Reads escapes of bytes that go on with a character. -/
private def escapedTail : Nat → List Char → Except Fault (Bytes × List Char)
  | 0, cs => .ok ([], cs)
  | count + 1, cs =>
    match escapedByte? cs with
    | some (byte, rest) =>
      if 0x80 ≤ byte && byte < 0xC0 then do
        let (bytes, rest) ← escapedTail count rest
        pure (UInt8.ofNat byte :: bytes, rest)
      else .error .badTag
    | none => .error .badTag

/-- Reads the escapes of one character. Bytes that have the form of a character and are none stand
for a replacement character. -/
private def escapedCharacter (cs : List Char) : Except Fault (List Char × List Char) :=
  match escapedByte? cs with
  | none => .error .badTag
  | some (byte, rest) =>
    match widthOf? byte with
    | none => .error .badTag
    | some width => do
      let (bytes, rest) ← escapedTail (width - 1) rest
      pure ((Utf8.decodeChars? (UInt8.ofNat byte :: bytes)).getD ['\ufffd'], rest)

/-- Reads the characters of a tag; escapes stand for UTF-8 bytes. -/
private def tagChars (verbatim : Bool) : Nat → List Char → Except Fault (List Char × List Char)
  | 0, cs => .ok ([], cs)
  | fuel + 1, cs =>
    match cs with
    | '%' :: _ => do
      let (chars, rest) ← escapedCharacter cs
      let (tail, rest) ← tagChars verbatim fuel rest
      pure (chars ++ tail, rest)
    | c :: rest =>
      if isTagChar verbatim c then do
        let (tail, rest) ← tagChars verbatim fuel rest
        pure (c :: tail, rest)
      else .ok ([], c :: rest)
    | [] => .ok ([], [])

/-- What counts of the characters of a tag: those before a NUL. -/
private def significantChars (chars : List Char) : List Char := chars.takeWhile (· ≠ '\x00')

/-- Reads a handle: an exclamation mark, a name, and perhaps one more mark. -/
private def tagHandle (cs : List Char) : Except Fault (List Char × List Char) :=
  match cs with
  | '!' :: rest =>
    let (name, rest) := rest.span isNameChar
    match rest with
    | '!' :: rest => .ok ('!' :: name ++ ['!'], rest)
    | rest => .ok ('!' :: name, rest)
  | _ => .error .badTag

private def isClosedHandle (handle : List Char) : Bool :=
  1 < handle.length && handle.getLast? = some '!'

/-- Reads a tag from its exclamation mark on. -/
def tag (flow : Bool) (cs : List Char) : Except Fault (TagText × List Char) := do
  let (tag, rest) ← match cs with
    | '!' :: '<' :: inner => do
      let (suffix, rest) ← tagChars true inner.length inner
      match suffix, rest with
      | _ :: _, '>' :: rest => pure ((⟨[], significantChars suffix⟩ : TagText), rest)
      | _, _ => throw .badTag
    | cs => do
      let (handle, rest) ← tagHandle cs
      let (suffix, rest) ← tagChars false rest.length rest
      if isClosedHandle handle then
        if suffix.isEmpty then throw .badTag else pure (⟨handle, significantChars suffix⟩, rest)
      else
        let name := significantChars (handle.drop 1 ++ suffix)
        pure (if name.isEmpty then ⟨[], ['!']⟩ else ⟨['!'], name⟩, rest)
  if atGap rest || (flow && rest.head? = some ',') then pure (tag, rest) else throw .badTag

private def number (cs : List Char) : Except Fault (Nat × List Char) :=
  let (digits, rest) := cs.span Char.isDigit
  if digits.isEmpty || 9 < digits.length then .error .badDirective
  else .ok (digits.foldl (fun n c => n * 10 + (c.toNat - '0'.toNat)) 0, rest)

private def versionDirective (cs : List Char) : Except Fault (Directive × List Char) := do
  let (major, rest) ← number (cs.dropWhile isBlank)
  match rest with
  | '.' :: rest => do
    let (minor, rest) ← number rest
    pure (.version major minor, rest)
  | _ => throw .badDirective

private def tagDirective (cs : List Char) : Except Fault (Directive × List Char) := do
  let (handle, rest) ← tagHandle (cs.dropWhile isBlank)
  if !isClosedHandle handle && handle ≠ ['!'] then throw .badDirective
  if !rest.head?.any isBlank then throw .badDirective
  let (chars, rest) ← tagChars true rest.length (rest.dropWhile isBlank)
  if chars.isEmpty || !atGap rest then throw .badDirective
  pure (.tagPrefix handle (significantChars chars), rest)

/-- Reads a directive after its percent sign, with the rest of its line. -/
def directive (cs : List Char) : Except Fault (Directive × List Char) := do
  let (name, rest) := cs.span isNameChar
  if !atGap rest then throw .badDirective
  let (directive, rest) ←
    if name = "YAML".toList then versionDirective rest
    else if name = "TAG".toList then tagDirective rest
    else throw .badDirective
  match restOfLine rest with
  | some rest => pure (directive, rest.tail)
  | none => throw .badDirective

end RuntimeFlag.Yaml
