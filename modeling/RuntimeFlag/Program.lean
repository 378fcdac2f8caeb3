import RuntimeFlag.Command
import RuntimeFlag.Log
/-!
# The program

A run of the program: arguments are read, a command is performed, and what happens is shown on two
channels, one for results and one for the log and for failures. The exit code tells how it ended.
-/
namespace RuntimeFlag.Program

inductive Channel
  | output
  | errors
  deriving DecidableEq, Repr

structure Writing where
  channel : Channel
  text : String
  deriving DecidableEq, Repr

/-- How the events of a dialogue are shown. -/
structure Display where
  filter : Log.Filter
  palette : Palette
  logPalette : Palette

namespace Display

def event (display : Display) : Event → List Writing
  | .sent _ => []
  | .printed text => [⟨.output, text⟩]
  | .logged entry =>
    if display.filter.shows entry then [⟨.errors, Log.line display.logPalette entry⟩] else []

def failureLine (failure : Failure) : String :=
  match failure with
  | .appNotFound _ | .diverged _ _ => failure.message
  | .notLoggedIn | .api _ | .settings _ | .io _ => "Error: " ++ failure.message

/-- The lines for a failure. -/
def failureLines (display : Display) (failure : Failure) : List String :=
  display.palette.failure :: failureLine failure :: failure.outputLines

def result (display : Display) : Except Failure Unit → List Writing
  | .ok () => []
  | .error failure => (display.failureLines failure).map fun line => ⟨.errors, line ++ "\n"⟩

end Display

def exitCode : Except Failure Unit → Nat
  | .ok () => 0
  | .error _ => 1

structure Job where
  display : Display
  /-- What is wrong with the wish for a log. -/
  complaints : List String
  dialogue : Dialogue Unit

inductive Plan
  /-- The program ends at once. -/
  | stop (exitCode : Nat) (writing : Writing)
  | perform (job : Job)

def planForRejection (palette : Palette) (args : List Bytes)
    (rejection : CommandLine.Rejection) : Plan :=
  match CommandLine.usageFor (args.map Utf8.decodeLossy) rejection.problem with
  | some usage => .stop 1 ⟨.errors, "Invalid Usage:\n  " ++ usage ++ "\n"⟩
  | none =>
    let code := rejection.problem.exitCode
    .stop code ⟨if code = 0 then .output else .errors, rejection.text palette⟩

def planForInvocation (surroundings : Surroundings) (invocation : CommandLine.Invocation) : Plan :=
  let environment := surroundings.environment
  let (filter, complaints) := Log.filterFor environment.log invocation.debug
  .perform
    { display := ⟨filter, environment.palette, environment.textPalette⟩
      complaints := complaints
      dialogue := invocation.command.perform surroundings invocation.options }

def plan (surroundings : Surroundings) (args : List Bytes) : Plan :=
  match CommandLine.parse surroundings.environment.options args with
  | .ok invocation => planForInvocation surroundings invocation
  | .error rejection => planForRejection surroundings.environment.textPalette args rejection

/-- The file that arguments make the program read. -/
def settingsPath? (surroundings : Surroundings) (args : List Bytes) : Option String :=
  match CommandLine.parse surroundings.environment.options args with
  | .ok invocation =>
    (Session.settingsPath surroundings invocation.options.settingsPath).toOption
  | .error _ => none

/-- A run that came to its end. -/
structure Run where
  exitCode : Nat
  writings : List Writing
  requests : List Request

/-- What a run wrote to a channel. -/
def Run.text (run : Run) (channel : Channel) : String :=
  String.join ((run.writings.filter (·.channel = channel)).map (·.text))

def Job.opening (job : Job) : List Writing :=
  job.complaints.map fun complaint => ⟨.errors, Log.complaintLine complaint⟩

/-- The run of a command that ended. -/
def Job.run (job : Job) (report : Report Unit) : Run where
  exitCode := exitCode report.result
  writings :=
    job.opening ++ report.events.flatMap job.display.event ++ job.display.result report.result
  requests := report.requests

/-- A run of the program on the outcomes that its requests will have. -/
def run (surroundings : Surroundings) (args : List Bytes) (wire : List Outcome) : Run :=
  match plan surroundings args with
  | .stop code writing => ⟨code, [writing], []⟩
  | .perform job => job.run (job.dialogue wire)

end RuntimeFlag.Program
