import PluginWrapper.Config.Setting
import PluginWrapper.Toml.Quotation
import PluginWrapper.Text.Blank
import PluginWrapper.Text.Measure
import PluginWrapper.Text.Split

/-!
Values of environment variables. A value is read as a literal if it is one to its end; any other is
a text.
-/

namespace PluginWrapper.Literal

def isSpace (c : Char) : Bool :=
  c == ' ' || c == '\t' || c == '\n' || c == '\x0c' || c == '\r'

def dropSpaces (s : List Char) : List Char :=
  s.dropWhile isSpace

def isWordChar (c : Char) : Bool :=
  c != ',' && c != '{' && c != '}' && c != '[' && c != ']'

def isKeyChar (c : Char) : Bool :=
  c.isAlphanum || c == '_' || c == '-'

/-- Digits behind an optional plus sign, for a number of at most 64 bits. -/
def unsigned? (s : List Char) : Option Nat := do
  let digits := match s with
    | '+' :: rest => rest
    | _ => s
  let n ← Number.natural? 10 digits
  if n < Nat.pow 2 64 then some n else none

def negative? : List Char → Option Int
  | '-' :: digits => do
    let n ← Number.natural? 10 digits
    if n ≤ Nat.pow 2 63 then some (-(n : Int)) else none
  | _ => none

/-- A word is a number if it spells one; with a point in it, a decimal. -/
def word (s : List Char) : Scalar :=
  let t := Text.trim s
  match if t.contains '.' then Number.decimal? t else none with
  | some x => .float x
  | none =>
    match unsigned? t with
    | some n => .unsigned n
    | none =>
      match negative? t with
      | some n => .signed n
      | none => .text (String.ofList t)

def after? : List Char → List Char → Option (List Char)
  | [], s => some s
  | c :: lead, d :: s => if c = d then after? lead s else none
  | _ :: _, [] => none

/-- A text between double quotes, by what follows the first. Of what stands before the first escape
only as many bytes are kept as it has characters; a text without escapes is kept whole. -/
def string? (s : List Char) : Option (List Char × List Char) := do
  let (text, rest) ← Toml.basicString (s.length + 1) s
  let lead := s.takeWhile fun c => c != '"' && c != '\\'
  if s[lead.length]? = some '\\' then
    pure (Text.firstBytes lead.length lead ++ text.drop lead.length, rest)
  else pure (text, rest)

def key? : List Char → Option (List Char × List Char)
  | '"' :: rest => string? rest
  | s =>
    let key := s.takeWhile isKeyChar
    if key.isEmpty then none else some (key, s.dropWhile isKeyChar)

/-- The items of a list or table, by what follows its opening bracket. Each may be followed by a
comma, and must be if another follows. -/
def collect? {α : Type} (item? : List Char → Option (α × List Char)) (closing : Char) :
    Nat → List Char → Option (List α × List Char)
  | 0, _ => none
  | fuel + 1, s =>
    match after? [closing] s with
    | some rest => some ([], rest)
    | none => do
      let (first, rest) ← item? s
      match after? [','] rest with
      | some rest => do
        let (others, rest) ← collect? item? closing fuel rest
        pure (first :: others, rest)
      | none => do pure ([first], ← after? [closing] rest)

def pair? (value? : List Char → Option (Setting × List Char)) (s : List Char) :
    Option ((String × Setting) × List Char) := do
  let (key, rest) ← key? (dropSpaces s)
  let rest ← after? ['='] (dropSpaces rest)
  let (v, rest) ← value? (dropSpaces rest)
  pure ((String.ofList key, v), dropSpaces rest)

/-- A table of the given entries. Of equal keys the last counts. -/
def ofPairs (pairs : List (String × Setting)) : Setting :=
  .table .environment
    (pairs.foldl (fun entries (key, v) => Setting.change key (fun _ => v) entries) [])

/-- A literal without the blanks around it. The fuel bounds the nesting. -/
def bare? : Nat → List Char → Option (Setting × List Char)
  | 0, _ => none
  | fuel + 1, s =>
    let value? (s : List Char) : Option (Setting × List Char) :=
      (bare? fuel (dropSpaces s)).map fun (v, rest) => (v, dropSpaces rest)
    match after? "true".toList s, after? "false".toList s with
    | some rest, _ => some (.scalar .environment (.bool true), rest)
    | none, some rest => some (.scalar .environment (.bool false), rest)
    | none, none =>
      match s with
      | '{' :: rest =>
        (collect? (pair? value?) '}' s.length rest).map fun (pairs, rest) => (ofPairs pairs, rest)
      | '[' :: rest =>
        (collect? value? ']' s.length rest).map fun (items, rest) =>
          (.list .environment items, rest)
      | '"' :: rest =>
        (string? rest).map fun (text, rest) =>
          (.scalar .environment (.text (String.ofList text)), rest)
      | '\'' :: c :: '\'' :: rest => some (.scalar .environment (.char c), rest)
      | '\'' :: _ => none
      | _ =>
        some (.scalar .environment (word (s.takeWhile isWordChar)), s.dropWhile isWordChar)

def read (s : String) : Setting :=
  match bare? (s.length + 1) (dropSpaces s.toList) with
  | some (v, rest) =>
    if (dropSpaces rest).isEmpty then v else .scalar .environment (.text s)
  | none => .scalar .environment (.text s)

end PluginWrapper.Literal
