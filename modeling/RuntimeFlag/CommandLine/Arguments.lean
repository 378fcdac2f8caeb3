import RuntimeFlag.CommandLine.Rejection
import RuntimeFlag.Text.Utf8
/-!
# Reading arguments

A command line has two levels, the program and the command, and the options may stand at both. Each
level is read argument by argument; an option without a value waits for the next argument, and what
was read last is checked only when something else is read or the arguments end. An option that the
arguments leave out is taken from the environment.
-/
namespace RuntimeFlag.CommandLine

structure Environment where
  format : Option String
  config : Option String
  api : Option String
  debug : Option String
  deriving DecidableEq, Repr

inductive ValueOption
  | format
  | config
  | api
  deriving DecidableEq, Repr

/-- What the arguments of one level give. -/
structure Given where
  format : Option Listing.Format
  config : Option String
  api : Option String
  debug : Bool
  app : Option String
  deriving DecidableEq, Repr

/-- The last thing read, not checked yet. -/
inductive Pending
  | nothing
  | option (which : ValueOption) (value : Option Bytes)
  | app (value : Bytes)

/-- Where the arguments of a level stop: at their end, or at a command with its own arguments. -/
structure Level where
  given : Given
  pending : Pending
  next : Option (Verb × List Bytes)

def reject {α : Type} (problem : Problem) : Except Rejection α :=
  throw ⟨problem, none⟩

def showHelp {α : Type} (topic : Topic) (full : Bool) : Except Rejection α :=
  throw ⟨.helpWanted, some (.help topic full)⟩

def textOf (value : Bytes) : Except Rejection String :=
  match Utf8.decode? value with
  | some s => .ok s
  | none => reject .illFormedText

def formatOf (value : Bytes) : Except Rejection Listing.Format :=
  match (Utf8.decode? value).bind Listing.Format.ofName? with
  | some format => .ok format
  | none => reject .invalidValue

namespace Given

def empty : Given := ⟨none, none, none, false, none⟩

def has (given : Given) : ValueOption → Bool
  | .format => given.format.isSome
  | .config => given.config.isSome
  | .api => given.api.isSome

/-- Takes the value of an option; an option is given once. -/
def setOption (given : Given) (which : ValueOption) (value : Bytes) :
    Except Rejection Given :=
  if given.has which then reject .repeatedOption
  else match which with
    | .format => (formatOf value).map fun format => { given with format := some format }
    | .config => (textOf value).map fun config => { given with config := some config }
    | .api => (textOf value).map fun api => { given with api := some api }

/-- Checks what was read last. -/
def settle (given : Given) : Pending → Except Rejection Given
  | .nothing => .ok given
  | .option _ none => reject .invalidValue
  | .option which (some value) => given.setOption which value
  | .app value => (textOf value).map fun app => { given with app := some app }

def setDebug (given : Given) : Except Rejection Given :=
  if given.debug then reject .repeatedOption else .ok { given with debug := true }

end Given

inductive Form
  | escape
  | long (name : Bytes) (value : Option Bytes)
  | short (letters : Bytes)
  | plain

def formOf (arg : Bytes) : Form :=
  match arg with
  | [0x2D, 0x2D] => .escape
  | 0x2D :: 0x2D :: rest =>
    let name := rest.takeWhile (· ≠ 0x3D)
    .long name ((rest.drop name.length).tail?)
  | 0x2D :: b :: rest => .short (b :: rest)
  | _ => .plain

def valueOption? (name : Bytes) : Option ValueOption :=
  if name = Utf8.encode "format" then some .format
  else if name = Utf8.encode "config" then some .config
  else if name = Utf8.encode "api" then some .api
  else none

def verbOf? (arg : Bytes) : Option Verb :=
  (Utf8.decode? arg).bind Verb.ofName?

def isHelpWord (arg : Bytes) : Bool := arg = Utf8.encode "help"

/-- Answers the word `help` with the arguments after it. -/
def helpFor {α : Type} : List Bytes → Except Rejection α
  | [] => showHelp .program true
  | [arg] =>
    match verbOf? arg with
    | some verb => showHelp (.verb verb) true
    | none => if isHelpWord arg then showHelp .help true else reject .unknownCommand
  | _ :: _ :: _ => reject .unknownCommand

/-- What a flag without value does. -/
inductive Flag
  | debug
  | help (full : Bool)
  | version

def longFlag? (topic : Topic) (name : Bytes) : Option Flag :=
  if name = Utf8.encode "debug" then some .debug
  else if name = Utf8.encode "help" then some (.help true)
  else if name = Utf8.encode "version" && topic = .program then some .version
  else none

def shortFlag? (topic : Topic) : Bytes → Option Flag
  | 0x68 :: _ => some (.help false)
  | 0x56 :: _ => if topic = .program then some .version else none
  | _ => none

def raise (topic : Topic) (given : Given) : Flag → Except Rejection Given
  | .debug => given.setDebug
  | .help full => showHelp topic full
  | .version => throw ⟨.versionWanted, some .version⟩

/-- The problem with an argument that has no place. -/
def misplaced (topic : Topic) (escaped : Bool) (arg : Bytes) : Problem :=
  match topic with
  | .program =>
    if escaped && ((verbOf? arg).isSome || isHelpWord arg) then .unknownArgument
    else .unknownCommand
  | .verb _ | .help => .unknownArgument

def takesApp : Topic → Bool
  | .verb verb => verb.takesApp
  | .program | .help => false

def waiting : Pending → Option ValueOption
  | .option which none => some which
  | _ => none

/-- Takes an argument that is neither an option nor a command. -/
def place (topic : Topic) (escaped : Bool) (arg : Bytes) (given : Given)
    (pending : Pending) : Except Rejection (Given × Pending) :=
  let placed := given.app.isSome || (match pending with | .app _ => true | _ => false)
  if takesApp topic && !placed then do
    pure (← given.settle pending, .app arg)
  else reject (misplaced topic escaped arg)

def takeOption (topic : Topic) (given : Given) (pending : Pending) :
    Form → Except Rejection (Given × Pending)
  | .long name value =>
    match valueOption? name, longFlag? topic name, value with
    | some which, _, none => do pure (← given.settle pending, .option which none)
    | some which, _, some value => do
      pure (← (← given.settle pending).setOption which value, .nothing)
    | none, some flag, none => do pure (← raise topic (← given.settle pending) flag, .nothing)
    | none, some _, some _ => reject .tooManyValues
    | none, none, _ => reject .unknownArgument
  | .short letters =>
    match shortFlag? topic letters with
    | some flag => do pure (← raise topic (← given.settle pending) flag, .nothing)
    | none => reject .unknownArgument
  | .escape | .plain => pure (given, pending)

/-- Reads the arguments of a level; `escaped` tells whether `--` was read. -/
def readLevel (topic : Topic) (escaped : Bool) (given : Given) (pending : Pending) :
    List Bytes → Except Rejection Level
  | [] => .ok ⟨given, pending, none⟩
  | arg :: rest => do
    if escaped then
      let (given, pending) ← place topic true arg given pending
      readLevel topic true given pending rest
    else
      let command := if topic = .program && (waiting pending).isNone then verbOf? arg else none
      match command with
      | some verb => pure ⟨given, pending, some (verb, rest)⟩
      | none =>
        if topic = .program && (waiting pending).isNone && isHelpWord arg then helpFor rest
        else match formOf arg with
          | .escape => readLevel topic true given pending rest
          | .plain =>
            match waiting pending with
            | some which => readLevel topic false given (.option which (some arg)) rest
            | none =>
              let (given, pending) ← place topic false arg given pending
              readLevel topic false given pending rest
          | form =>
            let (given, pending) ← takeOption topic given pending form
            readLevel topic false given pending rest

/-- The value of the variable for `--debug`. -/
def debugOf? : Option String → Option Bool
  | none => some false
  | some value =>
    if value = "true" then some true else if value = "false" then some false else none

/-- Checks the variables that stand for options which a level leaves out. -/
def checkEnvironment (env : Environment) (given : Given) : Except Rejection Unit := do
  if given.format.isNone && env.format.any fun name => (Listing.Format.ofName? name).isNone then
    reject .invalidValue
  if !given.debug && (debugOf? env.debug).isNone then reject .invalidValue

/-- Checks a level whose arguments are all read. -/
def finish (env : Environment) (level : Level) : Except Rejection Given := do
  let given ← level.given.settle level.pending
  checkEnvironment env given
  pure given

def anythingGiven (env : Environment) (given : Given) : Bool :=
  given.format.isSome || given.config.isSome || given.api.isSome || given.debug ||
    env.format.isSome || env.config.isSome || env.api.isSome || env.debug.isSome

/-- The options of both levels: those after the command win over those before it, and both win over
the environment. -/
def Given.options (outer inner : Given) (env : Environment) : Options where
  format := ((inner.format.or outer.format).or (env.format.bind Listing.Format.ofName?)).getD .table
  settingsPath := (inner.config.or outer.config).or env.config
  endpoint := (inner.api.or outer.api).or env.api

def parse (env : Environment) (args : List Bytes) : Except Rejection Invocation := do
  let outer ← readLevel .program false .empty .nothing args
  match outer.next with
  | none =>
    let given ← finish env outer
    if anythingGiven env given then reject .missingCommand
    else throw ⟨.nothingGiven, some (.help .program false)⟩
  | some (verb, rest) =>
    let inner ← finish env (← readLevel (.verb verb) false .empty .nothing rest)
    let command ← match verb.command? inner.app with
      | some command => pure command
      | none => reject .missingArgument
    let given ← finish env outer
    pure
      { command := command
        options := given.options inner env
        debug := inner.debug || given.debug || (debugOf? env.debug).getD false }

end RuntimeFlag.CommandLine
