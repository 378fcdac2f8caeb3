import RuntimeFlag.Yaml.Property
/-!
# Tokens of a YAML text

A text is a list of tokens. Collections that are written by indentation have tokens for their start
and end, like those in brackets. A colon makes a key of what stands before it on its line, so the
token for a key may have to be put before tokens that were read already.
-/
namespace RuntimeFlag.Yaml

inductive ScalarStyle
  | plain
  | singleQuoted
  | doubleQuoted
  | literal
  | folded
  deriving DecidableEq, Repr

inductive Token
  | directive (directive : Directive)
  | documentStart
  | documentEnd
  | blockSequenceStart
  | blockMappingStart
  | blockEnd
  | flowSequenceStart
  | flowSequenceEnd
  | flowMappingStart
  | flowMappingEnd
  | blockEntry
  | flowEntry
  | key
  | value
  | alias (name : List Char)
  | anchor (name : List Char)
  | tag (tag : TagText)
  | scalar (style : ScalarStyle) (text : List Char)
  deriving DecidableEq, Repr

/-- A place in a text; the index counts bytes. -/
structure Place where
  index : Nat
  line : Nat
  column : Nat
  deriving DecidableEq, Repr

def Place.after (place : Place) (c : Char) : Place :=
  let index := place.index + c.utf8Size
  if isBreak c then ⟨index, place.line + 1, 0⟩ else ⟨index, place.line, place.column + 1⟩

/-- Something that a colon on its line makes a key. -/
structure KeyCandidate where
  /-- The number of tokens before it. -/
  token : Nat
  place : Place
  /-- Whether it cannot be anything else. -/
  required : Bool
  deriving DecidableEq, Repr

structure Scan where
  rest : List Char
  place : Place
  /-- Whether the next token may be a key. -/
  keyAllowed : Bool
  /-- The key candidate of the innermost collection in brackets, or of the block. -/
  candidate : Option KeyCandidate
  /-- The key candidates outside of it, innermost first; one for each open bracket. -/
  outer : List (Option KeyCandidate)
  /-- The indentation of the innermost block collection; -1 outside of all. -/
  indent : Int
  /-- The indentations outside of it, innermost first. -/
  indents : List Int
  tokens : Array Token

namespace Scan

private def start (cs : List Char) : Scan where
  rest := cs
  place := ⟨0, 0, 0⟩
  keyAllowed := true
  candidate := none
  outer := []
  indent := -1
  indents := []
  tokens := #[]

def inFlow (s : Scan) : Bool := !s.outer.isEmpty

private def emit (s : Scan) (token : Token) : Scan := { s with tokens := s.tokens.push token }

private def goTo (s : Scan) (rest : List Char) : Scan :=
  { s with
    rest := rest
    place := (s.rest.take (s.rest.length - rest.length)).foldl Place.after s.place }

private def skip (s : Scan) (count : Nat) : Scan := s.goTo (s.rest.drop count)

private def isMissed (s : Scan) (candidate : KeyCandidate) : Bool :=
  candidate.place.line < s.place.line || candidate.place.index + 1024 < s.place.index

/-- A candidate, unless it is too late for its colon. -/
private def fresh (s : Scan) : Option KeyCandidate → Except Fault (Option KeyCandidate)
  | some candidate =>
    if !s.isMissed candidate then .ok (some candidate)
    else if candidate.required then .error .missingColon
    else .ok none
  | none => .ok none

private def dropStale (s : Scan) : Except Fault Scan := do
  pure { s with candidate := ← s.fresh s.candidate, outer := ← s.outer.mapM s.fresh }

/-- Gives the current candidate up. -/
private def dropCandidate (s : Scan) : Except Fault Scan :=
  if s.candidate.any (·.required) then .error .missingColon
  else .ok { s with candidate := none }

/-- Makes the next token a candidate. -/
private def addCandidate (s : Scan) : Except Fault Scan :=
  if !s.keyAllowed then .ok s
  else do
    let s ← s.dropCandidate
    let required := !s.inFlow && s.indent == s.place.column
    pure { s with candidate := some ⟨s.tokens.size, s.place, required⟩ }

/-- Ends the block collections that are indented more than a column. -/
private def unroll (column : Int) (s : Scan) : Scan :=
  if s.inFlow then s else go column s.indents s
where
  go (column : Int) : List Int → Scan → Scan
    | [], s => if column < s.indent then { s.emit .blockEnd with indent := -1 } else s
    | outer :: rest, s =>
      if column < s.indent then
        go column rest { s.emit .blockEnd with indent := outer, indents := rest }
      else s

/-- Starts a block collection at a column, if it is indented more than the one around it; its token
goes to a position in the list. -/
private def roll (s : Scan) (column : Nat) (position : Nat) (token : Token) : Scan :=
  if !s.inFlow && s.indent < column then
    { s with
      indents := s.indent :: s.indents
      indent := column
      tokens := s.tokens.insertIdxIfInBounds position token }
  else s

private def rollHere (s : Scan) (token : Token) : Scan :=
  s.roll s.place.column s.tokens.size token

/-- Skips blanks, comments and line ends before a token. A tab may stand where no key can. -/
private def toToken : Nat → Scan → Scan
  | 0, s => s
  | fuel + 1, s =>
    match s.rest with
    | [] => s
    | c :: rest =>
      if c = byteOrderMark && s.place.column = 0 then toToken fuel (s.goTo rest)
      else if c = ' ' || (c = '\t' && (s.inFlow || !s.keyAllowed)) then toToken fuel (s.goTo rest)
      else if c = '#' then toToken fuel (s.goTo (rest.dropWhile (!isBreak ·)))
      else if isBreak c then
        let s := s.goTo rest
        toToken fuel (if s.inFlow then s else { s with keyAllowed := true })
      else s

private def openFlow (s : Scan) (token : Token) : Except Fault Scan := do
  let s ← s.addCandidate
  pure ({ s with
    outer := s.candidate :: s.outer
    candidate := none
    keyAllowed := true }.skip 1 |>.emit token)

private def closeFlow (s : Scan) (token : Token) : Except Fault Scan := do
  let s ← s.dropCandidate
  let s := match s.outer with
    | candidate :: outer => { s with candidate := candidate, outer := outer }
    | [] => s
  pure ({ s with keyAllowed := false }.skip 1 |>.emit token)

private def documentMark (s : Scan) (token : Token) : Except Fault Scan := do
  let s ← (s.unroll (-1)).dropCandidate
  pure ({ s with keyAllowed := false }.skip 3 |>.emit token)

private def directive (s : Scan) : Except Fault Scan := do
  let s ← (s.unroll (-1)).dropCandidate
  let (directive, rest) ← Yaml.directive s.rest.tail
  pure ({ s with keyAllowed := false }.goTo rest |>.emit (.directive directive))

private def flowEntry (s : Scan) : Except Fault Scan := do
  let s ← s.dropCandidate
  pure ({ s with keyAllowed := true }.skip 1 |>.emit .flowEntry)

private def blockEntry (s : Scan) : Except Fault Scan := do
  if !s.inFlow && !s.keyAllowed then throw .entryNotAllowed
  let s ← (s.rollHere .blockSequenceStart).dropCandidate
  pure ({ s with keyAllowed := true }.skip 1 |>.emit .blockEntry)

private def key (s : Scan) : Except Fault Scan := do
  if !s.inFlow && !s.keyAllowed then throw .keyNotAllowed
  let s ← (s.rollHere .blockMappingStart).dropCandidate
  pure ({ s with keyAllowed := !s.inFlow }.skip 1 |>.emit .key)

private def value (s : Scan) : Except Fault Scan :=
  match s.candidate with
  | some candidate =>
    let s := { s with
      tokens := s.tokens.insertIdxIfInBounds candidate.token .key
      candidate := none
      keyAllowed := false }
    .ok ((s.roll candidate.place.column candidate.token .blockMappingStart).skip 1 |>.emit .value)
  | none => do
    if !s.inFlow && !s.keyAllowed then throw .valueNotAllowed
    let s := s.rollHere .blockMappingStart
    pure ({ s with keyAllowed := !s.inFlow }.skip 1 |>.emit .value)

private def anchor (s : Scan) (token : List Char → Token) : Except Fault Scan := do
  let s ← s.addCandidate
  let (name, rest) ← anchorName s.rest.tail
  pure ({ s with keyAllowed := false }.goTo rest |>.emit (token name))

private def tag (s : Scan) : Except Fault Scan := do
  let s ← s.addCandidate
  let (tag, rest) ← Yaml.tag s.inFlow s.rest
  pure ({ s with keyAllowed := false }.goTo rest |>.emit (.tag tag))

private def blockScalar (s : Scan) (style : ScalarStyle) : Except Fault Scan := do
  let s ← s.dropCandidate
  let lexeme ← block (style = .folded) s.indent s.rest.tail
  pure ({ s with keyAllowed := true }.goTo lexeme.rest |>.emit (.scalar style lexeme.text))

private def scalar (s : Scan) (style : ScalarStyle) (read : Except Fault Lexeme) :
    Except Fault Scan := do
  let s ← s.addCandidate
  let lexeme ← read
  pure ({ s with keyAllowed := lexeme.broken }.goTo lexeme.rest |>.emit (.scalar style lexeme.text))

private def plainScalar (s : Scan) : Except Fault Scan :=
  s.scalar .plain (plain s.inFlow (s.indent + 1).toNat [] .nothing s.place.column s.rest)

/-- Whether a plain scalar may start with a character. -/
private def startsPlain (flow : Bool) (c : Char) (rest : List Char) : Bool :=
  !"-?:,[]\x7b\x7d#&*!|>'\"%@`".toList.contains c ||
    (c = '-' && !rest.head?.any isBlank) ||
    (!flow && (c = '?' || c = ':') && !atGap rest)

/-- Reads one token, of which `c` is the first character. -/
private def readToken (s : Scan) (c : Char) (rest : List Char) : Except Fault Scan :=
  let flow := s.inFlow
  if s.place.column = 0 && c = '%' then s.directive
  else if s.place.column = 0 && atDocumentMark s.rest then
    s.documentMark (if c = '-' then .documentStart else .documentEnd)
  else match c with
    | '[' => s.openFlow .flowSequenceStart
    | '\x7b' => s.openFlow .flowMappingStart
    | ']' => s.closeFlow .flowSequenceEnd
    | '\x7d' => s.closeFlow .flowMappingEnd
    | ',' => s.flowEntry
    | '*' => s.anchor .alias
    | '&' => s.anchor .anchor
    | '!' => s.tag
    | '\'' => s.scalar .singleQuoted (singleQuoted [] .nothing (s.place.column + 1) rest)
    | '"' => s.scalar .doubleQuoted (doubleQuoted [] (.text .nothing) (s.place.column + 1) rest)
    | c =>
      if c = '-' && atGap rest then s.blockEntry
      else if c = '?' && (flow || atGap rest) then s.key
      else if c = ':' && (flow || atGap rest) then s.value
      else if c = '|' && !flow then s.blockScalar .literal
      else if c = '>' && !flow then s.blockScalar .folded
      else if startsPlain flow c rest then s.plainScalar
      else .error .unexpectedCharacter

private def run : Nat → Scan → Except Fault (Array Token)
  | 0, s => .ok s.tokens
  | fuel + 1, s => do
    let s ← (toToken (s.rest.length + 1) s).dropStale
    match s.rest with
    | [] => do
      let s ← ((s.goTo []).unroll (-1)).dropCandidate
      pure s.tokens
    | c :: rest =>
      if isBreak c || isBlank c then throw .unexpectedCharacter
      run fuel (← (s.unroll s.place.column).readToken c rest)

end Scan

/-- The tokens of a text whose line ends are alike. -/
def tokens (cs : List Char) : Except Fault (Array Token) :=
  Scan.run (cs.length + 1) (Scan.start cs)

end RuntimeFlag.Yaml
