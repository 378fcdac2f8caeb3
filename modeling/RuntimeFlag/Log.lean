import RuntimeFlag.Dialogue
import RuntimeFlag.Palette
import RuntimeFlag.Pattern.Text
import RuntimeFlag.Text.Blank
/-!
# The log

Which entries of the log are shown, and how. A filter has directives; each sets the greatest level
for the sources whose names start with a text, and for an entry the longest such text counts.
Besides, entries may have to match a pattern.
-/
namespace RuntimeFlag

def LogSource.name : LogSource → String
  | .settings => "diego_enabler::config"
  | .context => "diego_enabler::cli::context"
  | .walk => "diego_enabler::client::pagination"
  | .client => "diego_enabler::client::cloud_controller"
  | .toggle => "diego_enabler::toggle"
  | .toggleCommand => "diego_enabler::cli::diego"
  | .listCommand => "diego_enabler::cli::app"

namespace LogLevel

def all : List LogLevel := [.error, .warn, .info, .debug, .trace]

def name : LogLevel → String
  | .error => "ERROR"
  | .warn => "WARN"
  | .info => "INFO"
  | .debug => "DEBUG"
  | .trace => "TRACE"

/-- How many levels are at least as important. -/
def rank : LogLevel → Nat
  | .error => 1
  | .warn => 2
  | .info => 3
  | .debug => 4
  | .trace => 5

private def colour : LogLevel → List String
  | .error => ["1", "31"]
  | .warn => ["33"]
  | .info => ["32"]
  | .debug => ["34"]
  | .trace => ["36"]

end LogLevel

namespace Log

/-- How much is shown: nothing, or everything up to a level. -/
abbrev Limit := Option LogLevel

private def limitOf? (name : String) : Option Limit :=
  if Text.sameIgnoringCase name "off" then some none
  else (LogLevel.all.find? fun level => Text.sameIgnoringCase name level.name).map some

def allows (limit : Limit) (level : LogLevel) : Bool :=
  limit.any fun greatest => level.rank ≤ greatest.rank

/-- A limit for the sources whose names start with a text, or for all. -/
structure Directive where
  start : Option String
  limit : Limit
  deriving DecidableEq, Repr

def Directive.covers (directive : Directive) (source : LogSource) : Bool :=
  directive.start.all fun start => start.toList.isPrefixOf source.name.toList

def Directive.size (directive : Directive) : Nat :=
  (directive.start.map String.length).getD 0

structure Filter where
  directives : List Directive
  /-- What the texts of entries have to match. -/
  pattern : Option Pattern
  deriving DecidableEq, Repr

namespace Filter

/-- The filter that nothing was said about. -/
def empty : Filter := ⟨[], none⟩

/-- The filter with one more directive, which replaces one about the same sources. -/
def insert (filter : Filter) (directive : Directive) : Filter :=
  let known := filter.directives
  { filter with
    directives :=
      if known.any (·.start = directive.start) then
        known.map fun d => if d.start = directive.start then directive else d
      else known ++ [directive] }

/-- The directive that counts for a source: the longest one, and the last of those. -/
def directiveFor? (filter : Filter) (source : LogSource) : Option Directive :=
  (filter.directives.filter (·.covers source)).foldl
    (fun best d => if best.all (·.size ≤ d.size) then some d else best) none

/-- The limit for a source. Without any directive errors are shown. -/
def limitFor (filter : Filter) (source : LogSource) : Limit :=
  if filter.directives.isEmpty then some .error
  else (filter.directiveFor? source).bind (·.limit)

def shows (filter : Filter) (entry : LogEntry) : Bool :=
  allows (filter.limitFor entry.source) entry.level &&
    filter.pattern.all (·.isFoundIn entry.text)

end Filter

private def complaint (part : String) : String := "invalid logging spec '" ++ part ++ "'"

private def trimmedText (cs : List Char) : String := String.ofList (Text.trimChars cs)

/-- The directive that a part of a specification writes, or what is wrong with it. A limit alone
holds for all sources, and a name alone has no limit. -/
private def directiveOf (part : List Char) : Except String Directive :=
  match part.splitOn '=' with
  | [word] =>
    let word := String.ofList word
    match limitOf? word with
    | some limit => .ok ⟨none, limit⟩
    | none => .ok ⟨some word, some .trace⟩
  | [start, limit] =>
    let start := String.ofList start
    let limit := trimmedText limit
    if limit = "" then .ok ⟨some start, some .trace⟩
    else match limitOf? limit with
      | some limit => .ok ⟨some start, limit⟩
      | none => .error (complaint limit)
  | _ => .error (complaint (String.ofList part))

private def directivesOf (parts : List Char) : List (Except String Directive) :=
  (((parts.splitOn ',').map Text.trimChars).filter (!·.isEmpty)).map directiveOf

private def patternOf : List (List Char) → Except String (Option Pattern)
  | [] => .ok none
  | text :: _ =>
    match Pattern.ofText (String.ofList text) with
    | .ok pattern => .ok (some pattern)
    | .error refusal => .error ("invalid regex filter - " ++ refusal.message)

private def complaintOf? {α : Type} : Except String α → Option String
  | .error complaint => some complaint
  | .ok _ => none

/-- The filter that a specification writes, and what is wrong with the specification: directives,
and after a slash the pattern. -/
def filterOf (specification : String) : Filter × List String :=
  match specification.toList.splitOn '/' with
  | [] => (.empty, [])
  | _ :: _ :: _ :: _ => (.empty, [complaint specification ++ " (too many '/'s)"])
  | parts :: patterns =>
    let directives := directivesOf parts
    let pattern := patternOf patterns
    let start : Filter := ⟨[], (pattern.toOption).join⟩
    ((directives.filterMap (·.toOption)).foldl Filter.insert start,
      directives.filterMap complaintOf? ++ (complaintOf? pattern).toList)

/-- The filter of a run, for a specification that may be missing; debugging shows everything that no
directive about sources keeps back. -/
def filterFor (specification : Option String) (debug : Bool) : Filter × List String :=
  let (filter, complaints) := filterOf (specification.getD "warn")
  (if debug then filter.insert ⟨none, some .debug⟩ else filter, complaints)

/-- The line for something that is wrong with a specification. -/
def complaintLine (complaint : String) : String :=
  "warning: " ++ complaint ++ ", ignoring it\n"

/-- The text with four spaces at the start of each line but the first. -/
private def indented (text : String) : String :=
  "\n    ".intercalate (Text.splitAtFeeds text)

def line (palette : Palette) (entry : LogEntry) : String :=
  palette.paint ["90"] "[" ++ palette.paint entry.level.colour (Text.padRight 5 entry.level.name) ++
    " " ++ entry.source.name ++ palette.paint ["90"] "]" ++ " " ++ indented entry.text ++ "\n"

end Log

end RuntimeFlag
