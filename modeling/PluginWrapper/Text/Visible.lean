/-!
What a terminal shows of a text. Control characters act and are not shown, and neither are the
sequences that an escape character begins. A text without control characters is shown as it is.
-/

namespace PluginWrapper.Text

/-- What the next character belongs to. -/
inductive Control where
  | text
  /-- An escape character came last. -/
  | escape
  /-- A sequence that goes on with one more letter. -/
  | selection
  /-- A sequence with parameters. -/
  | sequence
  /-- A command, which a bell ends. -/
  | command
  /-- A sequence to the device, whose name is still to come. -/
  | device
  | deviceParameters
  | deviceSelection
  /-- A message to the device, which a byte 9C ends. -/
  | message
  deriving DecidableEq

namespace Control

def isBreak (c : Char) : Bool :=
  c == '\t' || c == '\n' || c == '\x0c' || c == '\r'

def isShown (c : Char) : Control → Bool
  | .text => isBreak c || (' ' ≤ c && c != '\x7f')
  | .escape | .selection | .sequence => isBreak c
  | .command | .device | .deviceParameters | .deviceSelection | .message => false

def next (c : Char) (k : Control) : Control :=
  if c = '\x1b' then .escape
  else if c = '\x18' || c = '\x1a' then .text
  else match k with
    | .text => .text
    | .escape =>
      if ' ' ≤ c && c ≤ '/' then .selection
      else if c = '[' then .sequence
      else if c = ']' then .command
      else if c = 'P' then .device
      else if c = 'X' || c = '^' || c = '_' then .message
      else if '0' ≤ c && c ≤ '~' then .text
      else .escape
    | .selection => if '0' ≤ c && c ≤ '~' then .text else .selection
    | .sequence => if '@' ≤ c && c ≤ '~' then .text else .sequence
    | .command => if c = '\x07' then .text else .command
    | .device =>
      if ' ' ≤ c && c ≤ '/' then .deviceSelection
      else if '0' ≤ c && c ≤ '?' then .deviceParameters
      else if '@' ≤ c && c ≤ '~' then .message
      else .device
    | .deviceParameters =>
      if ' ' ≤ c && c ≤ '/' then .deviceSelection
      else if '<' ≤ c && c ≤ '~' then .message
      else .deviceParameters
    | .deviceSelection => if '0' ≤ c && c ≤ '~' then .message else .deviceSelection
    | .message => if (String.utf8EncodeChar c).contains 0x9c then .text else .message

/-- The characters that are shown of a text. A break interrupts a sequence: text follows, and the
next control character takes the sequence up again, unless a character above ASCII came before. -/
def shown (k : Control) (interrupted : Bool) : List Char → List Char
  | [] => []
  | c :: rest =>
    if k.isShown c || (interrupted && text.isShown c) then
      c :: shown (if c.toNat < 0x80 then k else .text) true rest
    else shown (k.next c) false rest

end Control

def visible (s : List Char) : List Char :=
  Control.text.shown false s

end PluginWrapper.Text
