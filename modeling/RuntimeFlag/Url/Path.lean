import RuntimeFlag.Url.Basic
import RuntimeFlag.Url.Percent
/-!
# Paths

A path is read segment by segment. A segment of one dot stands for nothing and one of two dots takes
the segment before it away, unless that is a drive; either may write its dots as `%2e`. At the end
of a path they leave an empty segment. A drive that comes first in the path of a file is written
with a colon.

Tabs and line ends are gaps, which do not count. But one behind a drive that comes first parts it
from the rest of its segment.
-/
namespace RuntimeFlag.Path

/-- Whether a character does not count. -/
def isGap (c : Char) : Bool := c = '\t' || c = '\n' || c = '\r'

/-- The characters that count. -/
def counted (cs : List Char) : List Char := cs.filter (!isGap ·)

/-- Drops the first characters that count, with the gaps before them. -/
def dropCounted : Nat → List Char → List Char
  | 0, cs => cs
  | _ + 1, [] => []
  | count + 1, c :: rest => dropCounted (if isGap c then count + 1 else count) rest

def isSlash (kind : SchemeKind) (c : Char) : Bool :=
  c = '/' || (kind.isSpecial && c = '\\')

def split (kind : SchemeKind) : List Char → List (List Char)
  | [] => [[]]
  | c :: rest =>
    if isSlash kind c then [] :: split kind rest
    else match split kind rest with
      | [] => [[c]]
      | segment :: others => (c :: segment) :: others

/-- A segment with its dots written plainly. -/
def plainDots : List Char → List Char
  | '%' :: '2' :: e :: rest =>
    if e = 'e' || e = 'E' then '.' :: plainDots rest else '%' :: '2' :: e :: plainDots rest
  | c :: rest => c :: plainDots rest
  | [] => []

/-- Whether a segment stands for nothing. -/
def isDot (segment : List Char) : Bool := plainDots segment = ['.']

/-- Whether a segment takes away the one before it. -/
def isDoubleDot (segment : List Char) : Bool := plainDots segment = ['.', '.']

/-- Whether a text begins with a segment of dots. -/
def beginsWithDots (text : List Char) : Bool :=
  let segment := (counted text).takeWhile fun c => !isSlash .file c && c ≠ '?' && c ≠ '#'
  isDot segment || isDoubleDot segment

/-- Whether a segment is a drive: a letter and a colon, or a bar in place of the colon. -/
def isDrive : List Char → Bool
  | [letter, mark] => letter.isAlpha && (mark = ':' || mark = '|')
  | _ => false

def isColonDrive (segment : List Char) : Bool :=
  isDrive segment && segment.getLast? = some ':'

/-- A path without its last segment; both are given last segment first. A drive stays. -/
def shorten : List (List Char) → List (List Char)
  | [] => []
  | segment :: path => if isDrive segment then segment :: path else path

/-- A segment as it is written behind a path. The first segment of the path of a file may be a
drive, whose bar becomes a colon. -/
def written (kind : SchemeKind) (path : List (List Char)) (segment : List Char) :
    List Char :=
  if kind = .file && path.isEmpty && isDrive segment then segment.take 1 ++ [':']
  else Percent.encode Percent.inPath segment

/-- Puts a segment behind a path, which is given last segment first. -/
def push (kind : SchemeKind) (path : List (List Char)) (segment : List Char)
    (last : Bool) : List (List Char) :=
  if isDoubleDot segment then
    if last then [] :: shorten path else shorten path
  else if isDot segment then
    if last then [] :: path else path
  else written kind path segment :: path

/-- The drive at the start of a segment and the rest of it, when a gap is between them. -/
def partedDrive? (segment : List Char) : Option (List Char × List Char) :=
  let tail := dropCounted 2 segment
  let drive := (counted segment).take 2
  if isColonDrive drive && tail.head?.any isGap && !(counted tail).isEmpty then
    some (drive, counted tail)
  else none

/-- Puts a segment that may have gaps behind a path. The dots of a part do not count. -/
def pushWritten (kind : SchemeKind) (path : List (List Char)) (segment : List Char)
    (last : Bool) : List (List Char) :=
  match if kind = .file && path.isEmpty then partedDrive? segment else none with
  | some (drive, rest) => [Percent.encode Percent.inPath rest, drive]
  | none => push kind path (counted segment) last

def pushAll (kind : SchemeKind) (path : List (List Char)) :
    List (List Char) → List (List Char)
  | [] => path
  | [segment] => pushWritten kind path segment true
  | segment :: rest => pushAll kind (pushWritten kind path segment false) rest

/-- The path that a text leads to from a path. -/
def follow (kind : SchemeKind) (start : List (List Char)) (text : List Char) :
    List (List Char) :=
  (pushAll kind start.reverse (split kind text)).reverse

/-- Whether the path of a file begins with a drive that is a whole segment: such a file is on no
host. -/
def beginsWithDrive (text : List Char) : Bool :=
  (follow .file [] (counted text)).head?.any isColonDrive

/-- A path without the empty segments at its start, which do not count in a file. -/
def dropEmpty (path : List (List Char)) : List (List Char) :=
  match path.dropWhile List.isEmpty with
  | [] => [[]]
  | rest => rest

end RuntimeFlag.Path
