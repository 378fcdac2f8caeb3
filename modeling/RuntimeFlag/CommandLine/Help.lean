import RuntimeFlag.CommandLine.Command
import RuntimeFlag.Palette
import RuntimeFlag.Text.Blank
/-!
# Help

The descriptions of the program and of its commands. The brief form has an option or a command a
line, the full form a paragraph for each option. Headings and words that are typed as they stand are
emphasized where there are colours.
-/
namespace RuntimeFlag.CommandLine

inductive Topic
  | program
  | verb (verb : Verb)
  | help
  deriving DecidableEq, Repr

/-- A text that is shown in place of a run. -/
inductive Notice
  | help (topic : Topic) (full : Bool)
  | version
  deriving DecidableEq, Repr

private inductive Emphasis
  | plain
  | literal
  | heading

private def Emphasis.codes : Emphasis → List String
  | .plain => []
  | .literal => ["1"]
  | .heading => ["1", "4"]

/-- A part of a text that looks alike. -/
private structure Part where
  emphasis : Emphasis
  text : String

private abbrev Styled := List Part

private def plainPart (text : String) : Part := ⟨.plain, text⟩

private def literalPart (text : String) : Part := ⟨.literal, text⟩

private def headingPart (text : String) : Part := ⟨.heading, text⟩

private def Part.write (palette : Palette) (part : Part) : String :=
  match part.emphasis with
  | .plain => part.text
  | emphasis => palette.paint emphasis.codes part.text

private def writeStyled (palette : Palette) (parts : Styled) : String :=
  String.join (parts.map (·.write palette))

private def sizeOf (parts : Styled) : Nat := (parts.map (·.text.length)).foldl (· + ·) 0

/-- An option or argument as help shows it. -/
private structure Entry where
  label : Styled
  about : String
  /-- What the brief form adds to the description. -/
  note : String
  /-- The lines that the full form adds to it. -/
  more : List Styled

private def plainEntry (label : Styled) (about : String) : Entry := ⟨label, about, "", []⟩

private def valueLabel (option : String) (value : String) : Styled :=
  [plainPart "      ", literalPart ("--" ++ option), plainPart (" <" ++ value ++ ">")]

private def flagLabel (letter name : String) : Styled :=
  [plainPart "  ", literalPart ("-" ++ letter), plainPart ", ", literalPart ("--" ++ name)]

private def choiceLine (name about : String) : Styled :=
  [plainPart "          - ", literalPart name, plainPart about]

private def formatEntry : Entry where
  label := valueLabel "format" "FORMAT"
  about := "Output format for app listings (table, json)"
  note := " [default: table] [possible values: table, json]"
  more :=
    [[], [plainPart "          Possible values:"],
      choiceLine "table" ": Table format - one row per app (default)",
      choiceLine "json" ":  JSON format - structured for scripts",
      [plainPart "          "], [plainPart "          [default: table]"]]

private def helpEntry (full : Bool) : Entry :=
  plainEntry (flagLabel "h" "help")
    (if full then "Print help (see a summary with '-h')" else "Print help (see more with '--help')")

private def optionEntries (topic : Topic) (full : Bool) : List Entry :=
  [formatEntry, plainEntry (valueLabel "config" "CONFIG") "Override config file location",
    plainEntry (valueLabel "api" "API") "Override the API endpoint from the config file",
    plainEntry [plainPart "      ", literalPart "--debug"] "Enable debug logging",
    helpEntry full] ++
    if topic = .program then [plainEntry (flagLabel "V" "version") "Print version"] else []

private def appEntry : Entry := plainEntry [plainPart "  <APP_NAME>"] "Application name"

private def helpAbout : String := "Print this message or the help of the given subcommand(s)"

private def commandEntry (name about : String) : Entry :=
  plainEntry [plainPart "  ", literalPart name] about

private def commandEntries : List Entry :=
  (Verb.all.map fun verb => commandEntry verb.name verb.about) ++ [commandEntry "help" helpAbout]

private def briefLines (entries : List Entry) : List Styled :=
  let width := (entries.map fun entry => sizeOf entry.label).foldl max 0
  entries.map fun entry =>
    let gap := String.ofList (List.replicate (width + 2 - sizeOf entry.label) ' ')
    entry.label ++ [plainPart (gap ++ entry.about ++ entry.note)]

private def fullLines (entries : List Entry) : List Styled :=
  let paragraphs := entries.map fun entry =>
    [entry.label, [plainPart ("          " ++ entry.about)]] ++ entry.more
  (paragraphs.intersperse [[]]).flatten

private def entryLines (full : Bool) (entries : List Entry) : List Styled :=
  if full then fullLines entries else briefLines entries

private def usageLine : Topic → Styled
  | .program => line "" " [OPTIONS] <COMMAND>"
  | .verb verb =>
    line (" " ++ verb.name) (" [OPTIONS]" ++ if verb.takesApp then " <APP_NAME>" else "")
  | .help => line " help" " [COMMAND]..."
where
  line (name tail : String) : Styled :=
    [headingPart "Usage:", plainPart " ", literalPart (programName ++ name), plainPart tail]

private def about : Topic → String
  | .program => "Enable, disable and list the Diego runtime flag on platform applications"
  | .verb verb => verb.about
  | .help => helpAbout

private def titled (title : String) (lines : List Styled) : List Styled :=
  [headingPart title] :: lines

private def sections (topic : Topic) (full : Bool) : List (List Styled) :=
  match topic with
  | .program =>
    [titled "Commands:" (briefLines commandEntries),
      titled "Options:" (entryLines full (optionEntries topic full))]
  | .verb verb =>
    (if verb.takesApp then [titled "Arguments:" (entryLines full [appEntry])] else []) ++
      [titled "Options:" (entryLines full (optionEntries topic full))]
  | .help =>
    [titled "Arguments:"
      (briefLines [plainEntry [plainPart "  [COMMAND]..."] "Print help for the subcommand(s)"])]

/-- The help on a topic, brief or full. -/
def helpText (palette : Palette) (topic : Topic) (full : Bool) : String :=
  let paragraphs := [[plainPart (about topic)]] :: [usageLine topic] :: sections topic full
  let lines := (paragraphs.intersperse [[]]).flatten
  String.join (lines.map fun line => writeStyled palette line ++ "\n")

def versionText : String := programName ++ " " ++ Listing.version ++ "\n"

def Notice.text (palette : Palette) : Notice → String
  | .help topic full => helpText palette topic full
  | .version => versionText

end RuntimeFlag.CommandLine
