import RuntimeFlag.Text.Hex
import RuntimeFlag.Yaml.Character
import RuntimeFlag.Yaml.Fault
/-!
# Scalars of a YAML text

Plain, quoted and block scalars, read from their first character on. Line ends inside a plain or
quoted scalar are folded: one stands for a space, and more of them for one less. Each reader gives
the text of the scalar and the text after it.
-/
namespace RuntimeFlag.Yaml

/-- What stands between two parts of a scalar. -/
inductive Gap
  | nothing
  /-- Blanks of one line, last first. -/
  | blanks (read : List Char)
  /-- Line ends: the first one, which may be hidden by a backslash, and the others, last first. -/
  | breaks (first : Option Char) (others : List Char)

/-- What a gap stands for, last character first. -/
def Gap.folded : Gap → List Char
  | .nothing => []
  | .blanks read => read
  | .breaks (some '\n') [] => [' ']
  | .breaks (some '\n') others => others
  | .breaks (some first) others => others ++ [first]
  | .breaks none others => others

def Gap.addBlank (c : Char) : Gap → Gap
  | .nothing => .blanks [c]
  | .blanks read => .blanks (c :: read)
  | .breaks first others => .breaks first others

def Gap.addBreak (c : Char) : Gap → Gap
  | .nothing | .blanks _ => .breaks (some c) []
  | .breaks first others => .breaks first (c :: others)

def Gap.isBroken : Gap → Bool
  | .breaks _ _ => true
  | .nothing | .blanks _ => false

private def isEmptyGap : Gap → Bool
  | .nothing => true
  | .blanks _ | .breaks _ _ => false

/-- A scalar that was read, with what follows it. -/
structure Lexeme where
  text : List Char
  /-- Whether the scalar is followed by a line end that was read with it. -/
  broken : Bool
  rest : List Char

/-- Whether a plain scalar ends before a colon or a flow indicator. -/
private def plainEnds (flow : Bool) (c : Char) (rest : List Char) : Bool :=
  (c = ':' && atGap rest) || (flow && ",[]\x7b\x7d".toList.contains c)

private def isFlowColon (flow : Bool) (c : Char) (rest : List Char) : Bool :=
  flow && c = ':' && rest.head?.any fun d => ",?[]\x7b\x7d".toList.contains d

/-- Reads a plain scalar in a collection that is indented less than `indent`; `text` is what was
read, last character first. -/
def plain (flow : Bool) (indent : Nat) (text : List Char) (gap : Gap) (column : Nat) :
    List Char → Except Fault Lexeme
  | [] => .ok ⟨text.reverse, gap.isBroken, []⟩
  | c :: rest =>
    if isBreak c then plain flow indent text (gap.addBreak c) 0 rest
    else if isBlank c then
      if gap.isBroken && column < indent && c = '\t' then .error .tabInIndent
      else plain flow indent text (gap.addBlank c) (column + 1) rest
    else if !isEmptyGap gap &&
        ((!flow && column < indent) || (column = 0 && atDocumentMark (c :: rest)) || c = '#') then
      .ok ⟨text.reverse, gap.isBroken, c :: rest⟩
    else if isFlowColon flow c rest then .error .colonInFlow
    else if plainEnds flow c rest then .ok ⟨text.reverse, gap.isBroken, c :: rest⟩
    else plain flow indent (c :: gap.folded ++ text) .nothing (column + 1) rest

/-- Reads a scalar in single quotes, after the first of them. -/
def singleQuoted (text : List Char) (gap : Gap) (column : Nat) :
    List Char → Except Fault Lexeme
  | [] => .error .endInQuotes
  | '\'' :: '\'' :: rest =>
    singleQuoted ('\'' :: gap.folded ++ text) .nothing (column + 2) rest
  | c :: rest =>
    if isBreak c then singleQuoted text (gap.addBreak c) 0 rest
    else if isBlank c then singleQuoted text (gap.addBlank c) (column + 1) rest
    else if column = 0 && atDocumentMark (c :: rest) then .error .documentMarkInQuotes
    else if c = '\'' then .ok ⟨(gap.folded ++ text).reverse, false, rest⟩
    else singleQuoted (c :: gap.folded ++ text) .nothing (column + 1) rest

/-- What an escape in double quotes is. -/
inductive Escape
  | character (c : Char)
  | code (digits : Nat)

/-- The escape that a letter after a backslash names. -/
def Escape.ofLetter? : Char → Option Escape
  | '0' => some (.character '\x00')
  | 'a' => some (.character '\x07')
  | 'b' => some (.character '\x08')
  | 't' | '\t' => some (.character '\t')
  | 'n' => some (.character '\n')
  | 'v' => some (.character '\x0b')
  | 'f' => some (.character '\x0c')
  | 'r' => some (.character '\r')
  | 'e' => some (.character '\x1b')
  | ' ' => some (.character ' ')
  | '"' => some (.character '"')
  | '/' => some (.character '/')
  | '\\' => some (.character '\\')
  | 'N' => some (.character '\u0085')
  | '_' => some (.character '\u00a0')
  | 'L' => some (.character '\u2028')
  | 'P' => some (.character '\u2029')
  | 'x' => some (.code 2)
  | 'u' => some (.code 4)
  | 'U' => some (.code 8)
  | _ => none

/-- Where a scalar in double quotes stands. -/
inductive QuotePlace
  | text (gap : Gap)
  | escape
  /-- Inside the digits of an escape: how many are left, and the value of those read. -/
  | code (left value : Nat)

/-- Reads a scalar in double quotes, after the first of them. -/
def doubleQuoted (text : List Char) (place : QuotePlace) (column : Nat) :
    List Char → Except Fault Lexeme
  | [] => .error .endInQuotes
  | c :: rest =>
    match place with
    | .text gap =>
      if isBreak c then doubleQuoted text (.text (gap.addBreak c)) 0 rest
      else if isBlank c then doubleQuoted text (.text (gap.addBlank c)) (column + 1) rest
      else if column = 0 && atDocumentMark (c :: rest) then .error .documentMarkInQuotes
      else
        let text := gap.folded ++ text
        if c = '"' then .ok ⟨text.reverse, false, rest⟩
        else if c = '\\' then doubleQuoted text .escape (column + 1) rest
        else doubleQuoted (c :: text) (.text .nothing) (column + 1) rest
    | .escape =>
      if isBreak c then doubleQuoted text (.text (.breaks none [])) 0 rest
      else match Escape.ofLetter? c with
        | some (.character d) => doubleQuoted (d :: text) (.text .nothing) (column + 1) rest
        | some (.code digits) => doubleQuoted text (.code digits 0) (column + 1) rest
        | none => .error .badEscape
    | .code left value =>
      match Text.hexValue? c with
      | none => .error .badEscape
      | some digit =>
        let value := value * 16 + digit
        if 1 < left then doubleQuoted text (.code (left - 1) value) (column + 1) rest
        else if Nat.isValidChar value then
          doubleQuoted (Char.ofNat value :: text) (.text .nothing) (column + 1) rest
        else .error .badEscape

/-- What happens to the line ends at the end of a block scalar. -/
inductive Chomping
  | strip
  | clip
  | keep
  deriving DecidableEq, Repr

private def chomping? : List Char → Option (Chomping × List Char)
  | '+' :: rest => some (.keep, rest)
  | '-' :: rest => some (.strip, rest)
  | _ => none

private def increment? : List Char → Except Fault (Option (Nat × List Char))
  | c :: rest =>
    if c = '0' then .error .badBlockHeader
    else if c.isDigit then .ok (some (c.toNat - '0'.toNat, rest))
    else .ok none
  | [] => .ok none

/-- Reads the header of a block scalar: chomping, indentation, and what follows them. -/
private def blockHeader (cs : List Char) : Except Fault (Chomping × Option Nat × List Char) := do
  match chomping? cs with
  | some (chomping, rest) =>
    match ← increment? rest with
    | some (n, rest) => pure (chomping, some n, rest)
    | none => pure (chomping, none, rest)
  | none =>
    match ← increment? cs with
    | some (n, rest) =>
      match chomping? rest with
      | some (chomping, rest) => pure (chomping, some n, rest)
      | none => pure (.clip, some n, rest)
    | none => pure (.clip, none, cs)

/-- The text after blanks and a comment, which must be at a line end. -/
def restOfLine (cs : List Char) : Option (List Char) :=
  let rest := cs.dropWhile isBlank
  let rest := if rest.head? = some '#' then rest.dropWhile (!isBreak ·) else rest
  if atLineEnd rest then some rest else none

/-- Blank lines before a line of a block scalar: the line ends, last first, the column that was
reached, the greatest one of all, and what follows. -/
private structure BlankLines where
  breaks : List Char
  column : Nat
  widest : Nat
  rest : List Char

/-- Reads blank lines and the indentation of the line after them. Without an indentation that is
known all spaces belong to it. -/
private def blankLines (indent : Option Nat) (breaks : List Char) (column widest : Nat) :
    List Char → Except Fault BlankLines
  | [] => .ok ⟨breaks, column, max widest column, []⟩
  | c :: rest =>
    let inIndent := indent.all (column < ·)
    if inIndent && c = ' ' then blankLines indent breaks (column + 1) widest rest
    else if inIndent && c = '\t' then .error .tabInIndent
    else if isBreak c then blankLines indent (c :: breaks) 0 (max widest column) rest
    else .ok ⟨breaks, column, max widest column, c :: rest⟩

/-- The state of a block scalar between two lines: its text, last character first, the line end
after the last line, and the line ends of the blank lines after that one, last first. -/
private structure BlockText where
  text : List Char
  lineEnd : Option Char
  breaks : List Char
  /-- Whether the last line starts with a blank. -/
  blankStart : Bool

private def BlockText.addLine (block : BlockText) (folded : Bool) (line : List Char) : BlockText :=
  let blankStart := line.head?.any isBlank
  let join :=
    if folded && block.lineEnd = some '\n' && !block.blankStart && !blankStart then
      if block.breaks.isEmpty then [' '] else block.breaks
    else block.breaks ++ block.lineEnd.toList
  { text := line.reverse ++ join ++ block.text, lineEnd := none, breaks := [], blankStart }

private def blockLines (folded : Bool) (indent : Nat) :
    Nat → BlockText → BlankLines → Except Fault (BlockText × List Char)
  | 0, block, blank => .ok ({ block with breaks := blank.breaks }, blank.rest)
  | fuel + 1, block, blank =>
    let block := { block with breaks := blank.breaks }
    if blank.column ≠ indent || blank.rest.isEmpty then .ok (block, blank.rest)
    else do
      let (line, rest) := blank.rest.span (!isBreak ·)
      let block := { block.addLine folded line with lineEnd := rest.head? }
      let blank ← blankLines (some indent) [] (if rest.isEmpty then line.length + indent else 0) 0
        rest.tail
      blockLines folded indent fuel block blank

/-- Reads a block scalar after its first character, in a collection with the given indentation. -/
def block (folded : Bool) (outer : Int) (cs : List Char) : Except Fault Lexeme := do
  let (chomping, increment, rest) ← blockHeader cs
  let rest ← match restOfLine rest with
    | some rest => pure rest
    | none => throw .badBlockHeader
  let known : Option Nat := increment.map fun n => if 0 ≤ outer then outer.toNat + n else n
  let blank ← blankLines known [] 0 0 rest.tail
  let indent := known.getD (max blank.widest (max 1 (outer + 1).toNat))
  let start : BlockText := ⟨[], none, [], false⟩
  let (block, rest) ← blockLines folded indent rest.length start blank
  let tail := match chomping with
    | .strip => []
    | .clip => block.lineEnd.toList
    | .keep => block.breaks ++ block.lineEnd.toList
  pure ⟨(tail ++ block.text).reverse, true, rest⟩

end RuntimeFlag.Yaml
