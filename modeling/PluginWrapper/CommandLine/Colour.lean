/-!
Colours of the terminal. A coloured text goes back to its colour after each reset inside it.
-/

namespace PluginWrapper

inductive Colour where
  | green
  | cyan
  | yellow
  deriving DecidableEq

namespace Colour

def code : Colour → List Char
  | .green => "\x1b[32m".toList
  | .cyan => "\x1b[36m".toList
  | .yellow => "\x1b[33m".toList

def reset : List Char := "\x1b[0m".toList

/-- The text with a code after each reset. -/
def resume (code : List Char) : List Char → List Char
  | '\x1b' :: '[' :: '0' :: 'm' :: rest => reset ++ code ++ resume code rest
  | c :: rest => c :: resume code rest
  | [] => []

def paint (colour : Colour) (used : Bool) (text : String) : String :=
  if used then String.ofList (colour.code ++ resume colour.code text.toList ++ reset) else text

end Colour

end PluginWrapper
