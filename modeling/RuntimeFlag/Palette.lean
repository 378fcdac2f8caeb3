/-!
# Colours

How the outcome of a step is marked, with or without the colours of a terminal.
-/
namespace RuntimeFlag

/-- Whether texts are coloured. -/
inductive Palette
  | plain
  | coloured
  deriving DecidableEq, Repr

namespace Palette

private def reset : List Char := "\x1b[0m".toList

/-- The text with the style again behind each end of a style in it. -/
private def restyle (style : List Char) : List Char → List Char
  | '\x1b' :: '[' :: '0' :: 'm' :: rest => reset ++ style ++ restyle style rest
  | c :: rest => c :: restyle style rest
  | [] => []

/-- A text in a style, which is a list of control codes. -/
def paint (palette : Palette) (codes : List String) (text : String) : String :=
  match palette with
  | .plain => text
  | .coloured =>
    let style := codes.flatMap fun code => "\x1b[".toList ++ code.toList ++ ['m']
    String.ofList (style ++ restyle style text.toList ++ reset)

def success (palette : Palette) : String := palette.paint ["1;32"] "OK"

def failure (palette : Palette) : String := palette.paint ["1;31"] "FAILED"

def userName (palette : Palette) (name : String) : String := palette.paint ["1;36"] name

end Palette

end RuntimeFlag
