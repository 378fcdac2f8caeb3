import RuntimeFlag.CommandLine.Arguments
import RuntimeFlag.Palette
import RuntimeFlag.Settings.File
/-!
# Surroundings

What a run of the program finds around it: variables of the environment, files, and the time.
-/
namespace RuntimeFlag

structure Variables where
  options : CommandLine.Environment
  /-- Which entries of the log are shown. -/
  log : Option String
  /-- Whether colours are used although the output is no terminal. -/
  forcedColour : Option String
  /-- Whether colours are left out; marks do not heed it when colours are forced. -/
  noColour : Option String
  deriving DecidableEq, Repr

namespace Variables

/-- The palette of marks and names: colours are forced by any value but a zero. -/
def palette (vars : Variables) : Palette :=
  if vars.forcedColour.any (· ≠ "0") then .coloured else .plain

/-- The palette of help and of the log: colours are forced, and left out, by any value but the
empty one. -/
def textPalette (vars : Variables) : Palette :=
  if vars.forcedColour.any (· ≠ "") && !vars.noColour.any (· ≠ "") then .coloured else .plain

end Variables

/-- What a run of the program finds. -/
structure Surroundings where
  environment : Variables
  home : Option String
  /-- What paths lead to. -/
  entry : String → FileEntry
  /-- The time in seconds, rounded up: the seconds before it are over. -/
  now : Int
  /-- The time as documents tell it. -/
  timestamp : String

end RuntimeFlag
