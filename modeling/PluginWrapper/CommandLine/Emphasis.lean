import PluginWrapper.Text.Visible

/-!
How parts stand out in what the command line writes about itself.
-/

namespace PluginWrapper

inductive Emphasis where
  | heading
  /-- A word that is typed as it stands. -/
  | literal
  | fault
  /-- An argument that is missing. -/
  | wanted
  /-- A part of the command line that is not understood. -/
  | given
  deriving DecidableEq

namespace Emphasis

/-- Headings are bold and underlined, words are bold, the rest has colours. -/
def code : Emphasis → String
  | .heading => "\x1b[1m\x1b[4m"
  | .literal => "\x1b[1m"
  | .fault => "\x1b[1m\x1b[31m"
  | .wanted => "\x1b[32m"
  | .given => "\x1b[33m"

def mark (e : Emphasis) (s : String) : String :=
  e.code ++ s ++ "\x1b[0m"

/-- A text without what makes its parts stand out, and without other control characters. -/
def plain (s : String) : String :=
  String.ofList (Text.visible s.toList)

end Emphasis

end PluginWrapper
