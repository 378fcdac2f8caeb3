import RuntimeFlag.Url.Host
import RuntimeFlag.Url.Path
/-!
# Reading URLs

A text is read as a URL of its own, or relative to a base. Blanks and controls at its ends and tabs
and line ends inside it do not count. In a special URL backslashes are slashes, and the authority
may follow any number of them.
-/
namespace RuntimeFlag.Url

/-- A text without the blanks and controls at its ends. -/
def trimmed (text : String) : List Char :=
  Text.dropTailWhile (·.toNat ≤ 0x20) (text.toList.dropWhile (·.toNat ≤ 0x20))

def isSchemeChar (c : Char) : Bool := c.isAlphanum || c = '+' || c = '-' || c = '.'

/-- The scheme that a text starts with, in lower case, and what follows its colon. -/
def splitScheme (cs : List Char) : Option (List Char × List Char) :=
  match cs.dropWhile isSchemeChar, cs.head? with
  | ':' :: rest, some first =>
    if first.isAlpha then some ((cs.takeWhile isSchemeChar).map Text.lowerAscii, rest) else none
  | _, _ => none

/-- The kind of a URL by its scheme. -/
def kind (url : Url) : SchemeKind := schemeKind url.scheme

/-- The segments of a path; a path without structure has none. -/
def segments (url : Url) : List (List Char) :=
  match url.path with
  | .segments parts => parts
  | .plain _ => []

def isPathEnd (c : Char) : Bool := c = '?' || c = '#'

/-- The text of a path and what follows it. -/
def splitPath (cs : List Char) : List Char × List Char :=
  cs.span (!isPathEnd ·)

/-- Puts a query and a fragment, which start with their marks, behind a URL. -/
def withTail (url : Url) (tail : List Char) : Url :=
  let encodeFragment := Percent.encode Percent.inFragment
  match tail with
  | '?' :: rest =>
    let set := if url.kind.isSpecial then Percent.inSpecialQuery else Percent.inQuery
    let (query, fragment) := rest.span (· ≠ '#')
    { url with
      query := some (Percent.encode set query)
      fragment := fragment.tail?.map encodeFragment }
  | '#' :: rest => { url with fragment := some (encodeFragment rest) }
  | _ => url

/-- The path that a text leads to; empty segments at the start of the path of a file do not count. -/
def follow (kind : SchemeKind) (start : List (List Char)) (text : List Char) :
    List (List Char) :=
  match kind with
  | .file => Path.dropEmpty (Path.follow .file start text)
  | .special _ | .other => Path.follow kind start text

/-- A URL whose path is the one that a text, up to a query or fragment, leads to. -/
def withPath (url : Url) (start : List (List Char)) (cs : List Char) : Url :=
  let (text, tail) := splitPath cs
  let path := UrlPath.segments (follow url.kind start text)
  withTail { url with path := path, query := none, fragment := none } (Path.counted tail)

/-- Reads the path after an authority. -/
def withPathAfterHost (url : Url) (cs : List Char) : Url :=
  match cs with
  | [] => if url.kind.isSpecial then withPath url [] [] else { url with path := .segments [] }
  | c :: rest =>
    if Path.isSlash url.kind c then withPath url [] rest
    else if url.kind.isSpecial then withPath url [] (c :: rest)
    else if isPathEnd c then withTail { url with path := .segments [] } (c :: rest)
    else withPath url [] (c :: rest)

/-- A URL with a scheme and nothing else. -/
def bare (scheme : List Char) : Url :=
  ⟨scheme, [], none, none, none, .segments [], none, none⟩

/-- The parts of a text before and after the last character `@`. -/
def splitAtLastAt (cs : List Char) : Option (List Char × List Char) :=
  match cs with
  | [] => none
  | c :: rest =>
    match splitAtLastAt rest with
    | some (front, back) => some (c :: front, back)
    | none => if c = '@' then some ([], rest) else none

/-- Reads user name and password, without the `@` after them. -/
def withUserInfo (url : Url) (cs : List Char) : Url :=
  let encode := Percent.encode Percent.inUserInfo
  let (name, password) := cs.span (· ≠ ':')
  { url with
    username := encode name
    password := match password with
      | _ :: c :: rest => some (encode (c :: rest))
      | _ => none }

/-- The text of a host and what follows it; a colon in brackets belongs to the host. -/
def splitHost (kind : SchemeKind) (bracket : Bool) : List Char → List Char × List Char
  | [] => ([], [])
  | c :: rest =>
    if Path.isSlash kind c || isPathEnd c || (c = ':' && !bracket) then ([], c :: rest)
    else
      let (host, tail) := splitHost kind (c = '[' || (bracket && c ≠ ']')) rest
      (c :: host, tail)

/-- Whether a port may end before a text. -/
def endsPort : List Char → Bool
  | [] => true
  | c :: _ => c = '/' || c = '\\' || isPathEnd c

/-- Reads a port after its colon. The default port is left out. -/
def withPort (url : Url) (cs : List Char) : Except UrlFault (Url × List Char) :=
  let (digits, rest) := cs.span Char.isDigit
  match digits.isEmpty, Address.digits? 10 digits with
  | true, _ => if endsPort rest then .ok (url, rest) else .error .invalidPort
  | false, some port =>
    if 65535 < port || !endsPort rest then .error .invalidPort
    else if url.kind = .special port then .ok (url, rest)
    else .ok ({ url with port := some port }, rest)
  | false, none => .error .invalidPort

/-- Reads user name and password, if there are any, and gives what follows them. -/
def readUserInfo (scheme cs : List Char) : Except UrlFault (Url × List Char) :=
  let kind := schemeKind scheme
  match splitAtLastAt (cs.takeWhile fun c => !(Path.isSlash kind c || isPathEnd c)) with
  | none => .ok (bare scheme, cs)
  | some (info, _) =>
    let rest := cs.drop (info.length + 1)
    if info.isEmpty && rest.head?.any fun c => Path.isSlash kind c || isPathEnd c then
      .error .emptyHost
    else .ok (withUserInfo (bare scheme) info, rest)

/-- Reads the host of an authority. -/
def readHost (kind : SchemeKind) (text : List Char) : Except UrlFault Host :=
  if kind.isSpecial then
    if text.isEmpty then .error .emptyHost else Host.special text
  else Host.other text

/-- Reads what follows a host: a port, if there is a colon, and the path. -/
def withRest (url : Url) (cs : List Char) : Except UrlFault Url :=
  match cs with
  | ':' :: rest => (withPort url rest).map fun (url, rest) => withPathAfterHost url rest
  | rest => .ok (withPathAfterHost url rest)

/-- Reads the authority of a URL and what follows it. -/
def authority (scheme : List Char) (cs : List Char) : Except UrlFault Url := do
  let (url, rest) ← readUserInfo scheme cs
  let (text, rest) := splitHost (schemeKind scheme) false rest
  let host ← readHost (schemeKind scheme) text
  let url := { url with host := some host }
  if text.isEmpty && (rest.head? = some ':' || url.userInfoChars ≠ []) then throw .emptyHost
  withRest url rest

def isAnySlash (c : Char) : Bool := c = '/' || c = '\\'

/-- Reads the host of a file URL; the name `localhost` is the same as none. -/
def fileHost (text : List Char) : Except UrlFault Host :=
  if text.isEmpty then .ok (.domain [])
  else (Host.special text).map fun host =>
    if host = .domain "localhost".toList then .domain [] else host

/-- Whether a text starts with a drive that is a whole segment. -/
def startsWithDrive (cs : List Char) : Bool :=
  match cs with
  | a :: b :: rest =>
    Path.isDrive [a, b] && (match rest with
      | [] => true
      | c :: _ => isAnySlash c || isPathEnd c)
  | _ => false

def emptyFile : Url :=
  { bare "file".toList with host := some (.domain []), path := .segments [[]] }

/-- Reads the path after the host of a file URL. Without a host, a slash before the path is an empty
segment of it, so that no drive behind it comes first; with one, a drive that comes first leaves
the host out. -/
def withPathAfterFileHost (host : Host) (cs : List Char) : Url :=
  if host = .domain [] then withPath emptyFile [] cs
  else
    let rest := if (Path.counted cs).head?.any isAnySlash then Path.dropCounted 1 cs else cs
    if Path.beginsWithDrive (splitPath rest).1 then withPath emptyFile [] rest
    else withPath { emptyFile with host := some host } [] rest

/-- Reads a path relative to a file. A drive at the end of the base path stays; if it is not the
whole path, no slash is put behind it. -/
def withPathFromFile (base : Url) (cs : List Char) : Url :=
  let front := base.segments.dropLast
  match base.segments.getLast?.filter Path.isColonDrive with
  | none => withPath base front cs
  | some drive =>
    if front.isEmpty || Path.beginsWithDots cs then withPath base base.segments cs
    else withPath base front (drive ++ cs)

/-- Reads what follows the scheme of a file URL, with its gaps. -/
def file (base : Option Url) (cs : List Char) : Except UrlFault Url :=
  match Path.counted cs with
  | a :: b :: rest =>
    if isAnySlash a && isAnySlash b then
      let path := Path.dropCounted 2 cs
      let text := rest.takeWhile fun c => !(isAnySlash c || isPathEnd c)
      if startsWithDrive rest then .ok (withPath emptyFile [] path)
      else do
        let host ← fileHost text
        pure (withPathAfterFileHost host (Path.dropCounted text.length path))
    else .ok (relative base cs a (b :: rest))
  | [a] => .ok (relative base cs a [])
  | [] => .ok (match base with
    | some base => { base with fragment := none }
    | none => emptyFile)
where
  /-- Reads a text without a host, of which `c` and `rest` are what counts. -/
  relative (base : Option Url) (cs : List Char) (c : Char) (rest : List Char) : Url :=
    let path := if isAnySlash c then Path.dropCounted 1 cs else cs
    match base with
    | none => withPath emptyFile [] path
    | some base =>
      if isAnySlash c then
        if startsWithDrive rest then withPath emptyFile [] path
        else match base.segments with
          | first :: _ =>
            if Path.isColonDrive first then withPath emptyFile [first] path
            else withPath base [] path
          | [] => withPath base [] path
      else if c = '?' then withTail { base with query := none, fragment := none } (c :: rest)
      else if c = '#' then withTail { base with fragment := none } (c :: rest)
      else if startsWithDrive (c :: rest) then withPath emptyFile [] path
      else withPathFromFile base path

/-- Reads a text without a scheme, relative to a base with the given scheme. -/
def relative (base : Url) (cs : List Char) : Except UrlFault Url :=
  match cs with
  | [] => .ok { base with fragment := none }
  | '?' :: _ => .ok (withTail { base with query := none, fragment := none } cs)
  | '#' :: _ => .ok (withTail { base with fragment := none } cs)
  | c :: rest =>
    if isAnySlash c then
      match cs with
      | '/' :: '/' :: rest => authority base.scheme rest
      | _ =>
        if rest.head?.any isAnySlash then authority base.scheme (cs.dropWhile isAnySlash)
        else .ok (withPath base [] rest)
    else .ok (withPath base base.segments.dropLast (c :: rest))

/-- Reads what follows a scheme; `cs` is what counts of `written`. -/
def absolute (scheme : List Char) (base : Option Url) (written cs : List Char) :
    Except UrlFault Url :=
  match schemeKind scheme with
  | .file => file (base.filter (·.scheme = scheme)) written
  | .special _ =>
    let slashes := (cs.takeWhile isAnySlash).length
    match base with
    | some base =>
      if slashes < 2 && base.scheme = scheme then relative base cs
      else authority scheme (cs.drop slashes)
    | none => authority scheme (cs.drop slashes)
  | .other =>
    match cs with
    | '/' :: '/' :: rest => authority scheme rest
    | '/' :: rest => .ok (withPath (bare scheme) [] rest)
    | cs =>
      let (text, tail) := splitPath cs
      let path := UrlPath.plain (Percent.encode Percent.isControl text)
      .ok (withTail { bare scheme with path := path } tail)

/-- Reads a text as a URL, relative to a base if there is one. -/
def read (base : Option Url) (text : String) : Except UrlFault Url :=
  let written := trimmed text
  let cs := Path.counted written
  match splitScheme cs with
  | some (scheme, rest) =>
    absolute scheme base (Path.dropCounted (scheme.length + 1) written) rest
  | none =>
    match base with
    | none => .error .relativeWithoutBase
    | some base =>
      match base.path, base.kind, cs with
      | _, _, '#' :: _ => .ok (withTail { base with fragment := none } cs)
      | .plain _, _, _ => .error .relativeToPlainBase
      | .segments _, .file, _ => file (some base) written
      | .segments _, _, cs => relative base cs

def parse (text : String) : Except UrlFault Url := read none text

/-- Reads a text relative to a base. -/
def join (base : Url) (text : String) : Except UrlFault Url := read (some base) text

end RuntimeFlag.Url
