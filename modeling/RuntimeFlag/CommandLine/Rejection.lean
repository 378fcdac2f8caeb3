import RuntimeFlag.CommandLine.Help
/-!
# Rejected command lines

Why arguments do not make an invocation. A rejection that is about the number of arguments is
answered with the usage of the first command that the arguments name.
-/
namespace RuntimeFlag.CommandLine

/-- What keeps arguments from being an invocation. -/
inductive Problem
  | helpWanted
  | versionWanted
  /-- Nothing at all is given. -/
  | nothingGiven
  | missingCommand
  | unknownCommand
  | missingArgument
  | unknownArgument
  | tooManyValues
  | wrongNumberOfValues
  | invalidValue
  | illFormedText
  | repeatedOption
  deriving DecidableEq, Repr

def Problem.message : Problem → String
  | .helpWanted => "help is wanted"
  | .versionWanted => "the version is wanted"
  | .nothingGiven => "nothing is given"
  | .missingCommand => "a command is required but none was given"
  | .unknownCommand => "unrecognized command"
  | .missingArgument => "a required argument was not given"
  | .unknownArgument => "unexpected argument"
  | .tooManyValues => "too many values"
  | .wrongNumberOfValues => "wrong number of values"
  | .invalidValue => "invalid value"
  | .illFormedText => "invalid UTF-8"
  | .repeatedOption => "an option cannot be used more than once"

def Problem.aboutCount : Problem → Bool
  | .missingArgument | .unknownArgument | .tooManyValues | .wrongNumberOfValues => true
  | _ => false

/-- The exit code for a problem that the usage of a command does not answer. -/
def Problem.exitCode : Problem → Nat
  | .helpWanted | .versionWanted => 0
  | _ => 2

/-- A problem with the notice that is shown for it, where it has one. -/
structure Rejection where
  problem : Problem
  notice : Option Notice
  deriving DecidableEq, Repr

def Rejection.text (palette : Palette) (rejection : Rejection) : String :=
  match rejection.notice with
  | some notice => notice.text palette
  | none => "error: " ++ rejection.problem.message ++ "\n"

/-- The usage that is shown for a problem: that of the first argument that names a command. -/
def usageFor (args : List String) (problem : Problem) : Option String :=
  if problem.aboutCount then args.findSome? fun arg => (Verb.ofName? arg).map Verb.usage else none

end RuntimeFlag.CommandLine
