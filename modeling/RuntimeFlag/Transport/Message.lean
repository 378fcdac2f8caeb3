import RuntimeFlag.Listing.Document
import RuntimeFlag.Request
import RuntimeFlag.Text.Lines
import RuntimeFlag.Transport.Response
/-!
# Messages

How a request is written on a connection, and how the response on it is read. A connection is used
for one request, so a body without a length ends with the connection.
-/
namespace RuntimeFlag.Transport

/-- The name by which the program makes itself known. -/
def agent : String := "diego-enabler/" ++ Listing.version

private def hostText (url : Url) : String :=
  String.ofList ((url.host.map Host.chars).getD [] ++
    (url.port.map fun port => ':' :: Nat.toDigits 10 port).getD [])

private def targetText (url : Url) : String :=
  String.ofList (url.path.chars ++ (url.query.map ('?' :: ·)).getD [])

private def bodyHeaders (body : String) : List (String × String) :=
  [("content-type", "application/json"), ("content-length", Text.decimal body.utf8ByteSize)]

/-- The headers of a request on a connection. -/
def messageHeaders (request : Request) : List (String × String) :=
  request.headers.map (fun header => (header.name, header.value)) ++
    (request.body?.map fun body => bodyHeaders body.compact).getD [] ++
    [("user-agent", agent), ("accept", "*/*"), ("host", hostText request.url),
      ("connection", "close")]

def message (request : Request) : String :=
  let lines := (request.method ++ " " ++ targetText request.url ++ " HTTP/1.1") ::
    (messageHeaders request).map fun (name, value) => name ++ ": " ++ value
  String.join (lines.map (· ++ "\r\n")) ++ "\r\n" ++
    (request.body?.map Json.Value.compact).getD ""

/-- The bytes before a line end and those after it. -/
private def takeLine : Bytes → Option (Bytes × Bytes)
  | [] => none
  | 0x0D :: 0x0A :: rest => some ([], rest)
  | b :: rest => (takeLine rest).map fun (line, rest) => (b :: line, rest)

private def charsOf (bs : Bytes) : List Char := (Utf8.decodeLossy bs).toList

/-- The lines up to an empty one and the bytes after it. -/
private def takeHead : Nat → Bytes → Option (List (List Char) × Bytes)
  | 0, _ => none
  | fuel + 1, bs => do
    let (line, rest) ← takeLine bs
    if line.isEmpty then pure ([], rest)
    else do
      let (lines, rest) ← takeHead fuel rest
      pure (charsOf line :: lines, rest)

private def numeral? (digit? : Char → Option Nat) (base : Nat) (cs : List Char) : Option Nat :=
  if cs.isEmpty then none else (cs.mapM digit?).map (·.foldl (· * base + ·) 0)

private def decimalDigit? (c : Char) : Option Nat := (Text.hexValue? c).filter (· < 10)

/-- The status in the first line of a response. -/
private def status? (line : List Char) : Option Nat :=
  match line.splitOn ' ' with
  | version :: code :: _ =>
    if "HTTP/1.".toList.isPrefixOf version && code.length = 3 then numeral? decimalDigit? 10 code
    else none
  | _ => none

private def headerOf (line : List Char) : List Char × List Char :=
  let (name, value) := line.span (· ≠ ':')
  (name.map Text.lowerAscii, Text.trimChars value.tail)

/-- Joins the chunks of a body, each of which has its size on a line before it. -/
private def joinChunks : Nat → Bytes → Option Bytes
  | 0, _ => none
  | fuel + 1, bs => do
    let (line, rest) ← takeLine bs
    let size ← numeral? Text.hexValue? 16 (Text.trimChars ((charsOf line).takeWhile (· ≠ ';')))
    if size = 0 then pure []
    else if rest.length < size + 2 then none
    else (joinChunks fuel (rest.drop (size + 2))).map (rest.take size ++ ·)

/-- The body of a response with the given headers, out of the bytes after them. -/
private def bodyOf (headers : List (List Char × List Char)) (rest : Bytes) : Option Bytes :=
  match headers.lookup "transfer-encoding".toList with
  | some _ => joinChunks rest.length rest
  | none =>
    match headers.lookup "content-length".toList with
    | none => some rest
    | some digits => do
      let length ← numeral? decimalDigit? 10 digits
      if rest.length < length then none else some (rest.take length)

private def hasNoBody (status : Nat) : Bool := status = 204 || status = 304

/-- The response that a connection carried, if it is a whole one. -/
def Response.ofBytes? (bs : Bytes) : Option Response := do
  let (lines, rest) ← takeHead bs.length bs
  let status ← status? (← lines.head?)
  let headers := lines.tail.map headerOf
  if hasNoBody status then pure ⟨status, []⟩ else pure ⟨status, ← bodyOf headers rest⟩

end RuntimeFlag.Transport
