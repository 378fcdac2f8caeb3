import RuntimeFlag.Catalog.Runtime
import RuntimeFlag.Listing.Format
/-!
# Commands

What the command line can ask for: the words that name a command, the commands themselves, and the
options that hold for all of them.
-/
namespace RuntimeFlag.CommandLine

def programName : String := "diego-enabler"

/-- A word that names a command. -/
inductive Verb
  | enable
  | disable
  | check
  | listDiego
  | listDea
  deriving DecidableEq, Repr

namespace Verb

/-- The words in the order of their description. -/
def all : List Verb := [.enable, .disable, .check, .listDiego, .listDea]

def name : Verb → String
  | .enable => "enable-diego"
  | .disable => "disable-diego"
  | .check => "has-diego-enabled"
  | .listDiego => "diego-apps"
  | .listDea => "dea-apps"

def about : Verb → String
  | .enable => "enable Diego support for an app"
  | .disable => "disable Diego support for an app"
  | .check => "Check if Diego support is enabled for an app"
  | .listDiego => "Lists all apps running on the Diego runtime that are visible to the user"
  | .listDea => "Lists all apps running on the DEA runtime that are visible to the user"

/-- Whether the word is followed by the name of an application. -/
def takesApp : Verb → Bool
  | .enable | .disable | .check => true
  | .listDiego | .listDea => false

def usage (verb : Verb) : String :=
  programName ++ " " ++ verb.name ++ if verb.takesApp then " APP_NAME" else ""

def ofName? (name : String) : Option Verb :=
  all.find? (·.name == name)

end Verb

/-- A command with what it is about. -/
inductive Command
  | set (app : String) (enabled : Bool)
  | check (app : String)
  | list (runtime : Runtime)
  deriving DecidableEq, Repr

def Command.verb : Command → Verb
  | .set _ true => .enable
  | .set _ false => .disable
  | .check _ => .check
  | .list .diego => .listDiego
  | .list .dea => .listDea

def Command.app? : Command → Option String
  | .set app _ | .check app => some app
  | .list _ => none

/-- The command of a word, when the name of an application is there if and only if it is needed. -/
def Verb.command? : Verb → Option String → Option Command
  | .enable, some app => some (.set app true)
  | .disable, some app => some (.set app false)
  | .check, some app => some (.check app)
  | .listDiego, none => some (.list .diego)
  | .listDea, none => some (.list .dea)
  | _, _ => none

structure Options where
  format : Listing.Format
  /-- The settings file, when it is not the one in the home directory. -/
  settingsPath : Option String
  /-- The endpoint that replaces the one of the settings file. -/
  endpoint : Option String
  deriving DecidableEq, Repr

/-- What a whole command line asks for. -/
structure Invocation where
  command : Command
  options : Options
  debug : Bool
  deriving DecidableEq, Repr

end RuntimeFlag.CommandLine
