import PluginWrapper.Value

/-!
JSON texts of document trees, on one line or indented by two spaces a level.
-/

namespace PluginWrapper.Json

def fourHexDigits (n : Nat) : List Char :=
  let ds := Nat.toDigits 16 n
  List.replicate (4 - ds.length) '0' ++ ds

/-- Only quotes, backslashes and control characters are escaped. -/
def escapeChar (c : Char) : List Char :=
  if c = '"' || c = '\\' then ['\\', c]
  else if c = '\x08' then ['\\', 'b']
  else if c = '\x0c' then ['\\', 'f']
  else if c = '\n' then ['\\', 'n']
  else if c = '\r' then ['\\', 'r']
  else if c = '\t' then ['\\', 't']
  else if c.toNat < 0x20 then '\\' :: 'u' :: fourHexDigits c.toNat
  else [c]

def string (s : String) : String :=
  String.ofList ('"' :: s.toList.flatMap escapeChar ++ ['"'])

/-- Doubles have a point, and an exponent if there would be many zeros; a tie goes to the even
decimal. -/
def numberStyle : Number.Style := ⟨.even, true, some (-4, 16)⟩

/-- There is no text for an infinity or for what is not a number. -/
def number (x : Float) : String :=
  if x.isFinite then numberStyle.text x else "null"

/-- How the parts of a sequence or a map are set. -/
structure Layout where
  /-- What begins the line of a part at a depth; the bracket that closes stands one depth up. -/
  lineBreak : Nat → String
  colon : String

def Layout.onOneLine : Layout := ⟨fun _ => "", ":"⟩

def Layout.indented : Layout := ⟨fun depth => "\n" ++ "".pushn ' ' (2 * depth), ": "⟩

/-- The parts between brackets, without a line break if there is none. -/
def Layout.enclose (l : Layout) (depth : Nat) (opening closing : String) : List String → String
  | [] => opening ++ closing
  | parts =>
    opening ++ ",".intercalate (parts.map (l.lineBreak (depth + 1) ++ ·)) ++ l.lineBreak depth ++
      closing

mutual

/-- The text of a tree whose first line is already at its depth. -/
def render (l : Layout) (depth : Nat) : Value → String
  | .null => "null"
  | .bool b => if b then "true" else "false"
  | .int n => toString n
  | .float x => number x
  | .str s => string s
  | .seq items => l.enclose depth "[" "]" (renderItems l (depth + 1) items)
  | .map fields => l.enclose depth "\x7b" "\x7d" (renderFields l (depth + 1) fields)

def renderItems (l : Layout) (depth : Nat) : List Value → List String
  | [] => []
  | v :: rest => render l depth v :: renderItems l depth rest

def renderFields (l : Layout) (depth : Nat) : List (String × Value) → List String
  | [] => []
  | (key, v) :: rest => (string key ++ l.colon ++ render l depth v) :: renderFields l depth rest

end

end PluginWrapper.Json
