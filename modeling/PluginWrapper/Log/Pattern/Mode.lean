import PluginWrapper.Text.Blank

/-!
How a pattern is read, as its flags say.
-/

namespace PluginWrapper.Pattern

/-- Letters may be matched in either case, characters rather than bytes are matched, and blanks and
comments may stand between the parts. -/
structure Mode where
  caseless : Bool
  unicode : Bool
  spaced : Bool
  deriving DecidableEq

namespace Mode

def initial : Mode := ⟨false, true, false⟩

/-- The flags that there are. Some of them do not change how a pattern is read. -/
def flagChars : List Char := "imsUuRx".toList

/-- No flag is given twice, and a minus sign has one behind it. -/
def isFlags (flags : List Char) : Bool :=
  flags.all (fun c => c == '-' || flagChars.contains c) && decide flags.Nodup &&
    flags.getLast? != some '-'

/-- The flags behind a minus sign are cleared, the others set. -/
def change (flags : List Char) (m : Mode) : Mode :=
  let raised := flags.takeWhile (· != '-')
  let state (flag : Char) (now : Bool) : Bool :=
    if flags.contains flag then raised.contains flag else now
  ⟨state 'i' m.caseless, state 'u' m.unicode, state 'x' m.spaced⟩

/-- Drops blanks and comments, where `inside` tells whether the text begins in a comment. A comment
goes from a number sign to the end of the line. -/
def dropRemarks (inside : Bool) : List Char → List Char
  | [] => []
  | c :: rest =>
    if inside then dropRemarks (c != '\n') rest
    else if c = '#' then dropRemarks true rest
    else if Text.isBlank c then dropRemarks false rest
    else c :: rest

def skip (m : Mode) (s : List Char) : List Char :=
  if m.spaced then dropRemarks false s else s

/-- The next character that is not blank. Of a comment only the number sign is passed. -/
def peek? (m : Mode) (s : List Char) : Option Char :=
  if m.spaced then
    match Text.trimStart s with
    | '#' :: rest => (Text.trimStart rest).head?
    | s => s.head?
  else s.head?

end Mode

end PluginWrapper.Pattern
