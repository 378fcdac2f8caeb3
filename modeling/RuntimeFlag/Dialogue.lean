import RuntimeFlag.Palette
import RuntimeFlag.Request
/-!
# Dialogues with the control plane

A dialogue is a function of the outcomes that its requests will have, one for each request in order.
It reports its result, what was done, and the outcomes that were not used.
-/
namespace RuntimeFlag

/-- What becomes of a request: the body of a success, or a fault. -/
abbrev Outcome := Except ApiFault Bytes

inductive LogLevel
  | error
  | warn
  | info
  | debug
  | trace
  deriving DecidableEq, Repr

inductive LogSource
  | settings
  | context
  | walk
  | client
  | toggle
  | toggleCommand
  | listCommand
  deriving DecidableEq, Repr

structure LogEntry where
  level : LogLevel
  source : LogSource
  text : String
  deriving DecidableEq, Repr

/-- Something that is done in a dialogue. -/
inductive Event
  | sent (request : Request)
  | logged (entry : LogEntry)
  | printed (text : String)
  deriving DecidableEq, Repr

namespace Event

def request? : Event → Option Request
  | .sent request => some request
  | .logged _ | .printed _ => none

def entry? : Event → Option LogEntry
  | .logged entry => some entry
  | .sent _ | .printed _ => none

def text? : Event → Option String
  | .printed text => some text
  | .sent _ | .logged _ => none

end Event

structure Report (α : Type) where
  result : Except Failure α
  events : List Event
  unused : List Outcome

/-- A dialogue, as a function of the outcomes of its requests. -/
def Dialogue (α : Type) : Type := List Outcome → Report α

/-- The fault of a request that has no outcome. -/
def silence : ApiFault := .network "no scripted response left"

namespace Report

def requests {α : Type} (report : Report α) : List Request :=
  report.events.filterMap Event.request?

def log {α : Type} (report : Report α) : List LogEntry :=
  report.events.filterMap Event.entry?

def output {α : Type} (report : Report α) : String :=
  String.join (report.events.filterMap Event.text?)

private def before : Nat → List Event → List Event
  | 0, .sent _ :: _ => []
  | count + 1, .sent request :: rest => .sent request :: before count rest
  | count, .logged entry :: rest => .logged entry :: before count rest
  | count, .printed text :: rest => .printed text :: before count rest
  | _, [] => []

/-- The events before the request with a number, counted from zero. -/
def eventsBefore {α : Type} (report : Report α) (number : Nat) : List Event :=
  before number report.events

/-- The report with events before its own. -/
def after {α : Type} (report : Report α) (events : List Event) : Report α :=
  { report with events := events ++ report.events }

end Report

namespace Dialogue

variable {α β : Type}

instance : Monad Dialogue where
  pure a := fun wire => ⟨.ok a, [], wire⟩
  bind dialogue next := fun wire =>
    match dialogue wire with
    | ⟨.ok a, events, rest⟩ => (next a rest).after events
    | ⟨.error failure, events, rest⟩ => ⟨.error failure, events, rest⟩

def fail (failure : Failure) : Dialogue α := fun wire => ⟨.error failure, [], wire⟩

/-- Ends with a result that is known. -/
def ofExcept (result : Except Failure α) : Dialogue α := fun wire => ⟨result, [], wire⟩

/-- Does one thing that needs no answer. -/
def emit (event : Event) : Dialogue Unit := fun wire => ⟨.ok (), [event], wire⟩

def log (level : LogLevel) (source : LogSource) (text : String) : Dialogue Unit :=
  emit (.logged ⟨level, source, text⟩)

def print (text : String) : Dialogue Unit := emit (.printed text)

def printLine (text : String) : Dialogue Unit := print (text ++ "\n")

def markSuccess (palette : Palette) : Dialogue Unit := print (palette.success ++ "\n\n")

/-- Sends a request and takes its outcome. -/
def send (request : Request) : Dialogue Bytes := fun wire =>
  match wire with
  | [] => ⟨.error (.api silence), [.sent request], []⟩
  | outcome :: rest => ⟨outcome.mapError .api, [.sent request], rest⟩

/-- Holds a dialogue and gives its result, also when it is a failure. -/
def attempt (dialogue : Dialogue α) : Dialogue (Except Failure α) := fun wire =>
  let report := dialogue wire
  ⟨.ok report.result, report.events, report.unused⟩

/-- Holds a dialogue whose requests are answered one by one: it is held again with one outcome more
as long as a request has none, at most `limit` times. -/
def converse (answer : Request → Outcome) (dialogue : Dialogue α) : Nat → List Outcome → Report α
  | 0, known => dialogue known
  | limit + 1, known =>
    let report := dialogue known
    match report.requests[known.length]? with
    | none => report
    | some request => converse answer dialogue limit (known ++ [answer request])

end Dialogue

end RuntimeFlag
