import PluginWrapper.Log.Pattern.Mode
import PluginWrapper.Number.Reading

/-!
The smallest parts of a pattern. What letters and word characters there are is known of ASCII alone,
so that some parts can be read but not matched.
-/

namespace PluginWrapper.Pattern

/-- Stands for characters or for a place between two of them. -/
inductive Atom where
  /-- Given as a byte if it is spelled by two hexadecimal digits. -/
  | character (c : Char) (asByte : Bool)
  /-- The digits, blanks or word characters, or all others. -/
  | shorthand (negated : Bool)
  | any
  /-- The start or the end of a line or of the text. -/
  | edge
  | wordEdge
  deriving DecidableEq

namespace Atom

/-- What a character behind a backslash stands for: itself, unless it is a letter or digit. -/
def ofEscaped? (c : Char) : Option Atom :=
  match c with
  | 'a' => some (.character '\x07' false)
  | 'f' => some (.character '\x0c' false)
  | 't' => some (.character '\t' false)
  | 'n' => some (.character '\n' false)
  | 'r' => some (.character '\r' false)
  | 'v' => some (.character '\x0b' false)
  | 'd' | 's' | 'w' => some (.shorthand false)
  | 'D' | 'S' | 'W' => some (.shorthand true)
  | 'A' | 'z' => some .edge
  | 'b' | 'B' | '<' | '>' => some .wordEdge
  | _ => if c.toNat < 0x80 && !c.isAlphanum then some (.character c false) else none

def hexadecimal? (m : Mode) : Nat → Nat → List Char → Option (Nat × List Char)
  | 0, n, s => some (n, s)
  | count + 1, n, s =>
    match m.skip s with
    | [] => none
    | c :: rest => do hexadecimal? m count (n * 16 + (← Number.digit? 16 c)) rest

def codePoint? (m : Mode) (count : Nat) (s : List Char) : Option (Atom × List Char) := do
  let (n, rest) ← hexadecimal? m count 0 s
  if n.isValidChar then some (.character (Char.ofNat n) (count == 2), rest) else none

/-- The first atom of a text where only a backslash has a meaning. -/
def plain? (m : Mode) : List Char → Option (Atom × List Char)
  | [] => none
  | '\\' :: 'x' :: rest => codePoint? m 2 rest
  | '\\' :: 'u' :: rest => codePoint? m 4 rest
  | '\\' :: 'U' :: rest => codePoint? m 8 rest
  | '\\' :: rest => do
    let c ← rest.head?
    pure (← ofEscaped? c, rest.tail)
  | c :: rest => some (.character c false, rest)

def read? (m : Mode) : List Char → Option (Atom × List Char)
  | '.' :: rest => some (.any, rest)
  | '^' :: rest | '$' :: rest => some (.edge, rest)
  | s => plain? m s

/-- Bytes above ASCII do not match alone. -/
def isMatchable (m : Mode) : Atom → Bool
  | .character c asByte => if m.unicode then !m.caseless else !asByte || c.toNat < 0x80
  | .shorthand negated => !m.unicode && !negated
  | .any => m.unicode
  | .edge => true
  | .wordEdge => !m.unicode

def isMember (m : Mode) : Atom → Bool
  | .character c _ => if m.unicode then !m.caseless else c.toNat < 0x80
  | .shorthand negated => !m.unicode && !negated
  | .any | .edge | .wordEdge => false

end Atom

end PluginWrapper.Pattern
