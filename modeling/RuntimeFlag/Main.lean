import RuntimeFlag.Network
import RuntimeFlag.Program
import Std.Time.DateTime.Timestamp
/-!
# Running the program

Reads what surrounds the program, answers its requests over the network, and writes what it has to
show as it comes.
-/
namespace RuntimeFlag

private def entryOfError : IO.Error → FileEntry
  | .noFileOrDirectory _ _ _ => .missing
  | .inappropriateType _ 20 _ => .missing
  | .inappropriateType _ code details | .permissionDenied _ code details =>
    .unreadable (details ++ " (os error " ++ Text.decimal code.toNat ++ ")")
  | error => .unreadable (toString error)

private def readEntry (path : String) : IO FileEntry := do
  try
    pure (.content (← IO.FS.readBinFile path).toList)
  catch error => pure (entryOfError error)

private def readVariables : IO Variables := do
  pure
    { options :=
        { format := ← IO.getEnv "DIEGO_ENABLER_FORMAT"
          config := ← IO.getEnv "DIEGO_ENABLER_CONFIG"
          api := ← IO.getEnv "DIEGO_ENABLER_API"
          debug := ← IO.getEnv "DIEGO_ENABLER_DEBUG" }
      log := ← IO.getEnv "RUST_LOG"
      forcedColour := ← IO.getEnv "CLICOLOR_FORCE"
      noColour := ← IO.getEnv "NO_COLOR" }

/-- What a run finds, with the one file that its arguments make it read. -/
private def readSurroundings (args : List Bytes) : IO Surroundings := do
  let now : Calendar.Instant := ⟨(← Std.Time.Timestamp.now).toNanosecondsSinceUnixEpoch.val⟩
  let bare : Surroundings :=
    { environment := ← readVariables
      home := (← IO.getEnv "HOME").filter (· ≠ "")
      entry := fun _ => .missing
      now := now.ceiling
      timestamp := Calendar.exchangeText now }
  match Program.settingsPath? bare args with
  | none => pure bare
  | some path => do
    let found ← readEntry path
    pure { bare with entry := fun other => if other = path then found else .missing }

private def write (writing : Program.Writing) : IO Unit := do
  let stream ← match writing.channel with
    | .output => IO.getStdout
    | .errors => IO.getStderr
  stream.putStr writing.text
  stream.flush

/-- Performs a command on the outcomes known so far, of whose events some are shown already, and
goes on with one outcome more as long as a request waits for it. -/
private partial def perform (job : Program.Job) (known : List Outcome) (shown : Nat) :
    IO UInt32 := do
  let report := job.dialogue known
  let events := report.eventsBefore known.length
  (events.drop shown).forM fun event => (job.display.event event).forM write
  match report.requests[known.length]? with
  | some request => perform job (known ++ [← Network.exchange request]) events.length
  | none => do
    (job.display.result report.result).forM write
    pure (UInt32.ofNat (Program.exitCode report.result))

def run (args : List Bytes) : IO UInt32 := do
  match Program.plan (← readSurroundings args) args with
  | .stop code writing => do
    write writing
    pure (UInt32.ofNat code)
  | .perform job => do
    job.opening.forM write
    perform job [] 0

end RuntimeFlag

def main (args : List String) : IO UInt32 :=
  RuntimeFlag.run (args.map RuntimeFlag.Utf8.encode)
