import PluginWrapper.Toml.Scalar
import PluginWrapper.Toml.Table

/-!
The statements of a TOML document, in order: keys with their values, and headers.
-/

namespace PluginWrapper.Toml

inductive Statement where
  | pair (path : List String) (value : Value)
  | table (path : List String)
  | element (path : List String)

/-- Dotted keys have fewer parts, and arrays and inline tables nest less deep. -/
def depthLimit : Nat := 80

def isBareKeyChar (c : Char) : Bool :=
  c.isAlphanum || c == '-' || c == '_'

def keyPart? : List Char → Option (List Char × List Char)
  | '"' :: rest => basicString rest.length rest
  | '\'' :: rest => literalString rest
  | s =>
    let bare := s.takeWhile isBareKeyChar
    if bare.isEmpty then none else some (bare, s.dropWhile isBareKeyChar)

def keyParts? : Nat → List Char → Option (List String × List Char)
  | 0, _ => none
  | fuel + 1, s => do
    let (part, rest) ← keyPart? (dropSpaces s)
    match dropSpaces rest with
    | '.' :: rest => do
      let (parts, rest) ← keyParts? fuel rest
      pure (String.ofList part :: parts, rest)
    | rest => pure ([String.ofList part], rest)

def key? (s : List Char) : Option (List String × List Char) := do
  let (path, rest) ← keyParts? s.length s
  if path.length < depthLimit then some (path, rest) else none

def dropComment : List Char → List Char
  | '#' :: rest => rest.dropWhile isPlain
  | s => s

def dropTrivia : Nat → List Char → List Char
  | 0, s => s
  | fuel + 1, s =>
    match lineEnd? (dropComment (dropSpaces s)) with
    | some rest => dropTrivia fuel rest
    | none => dropSpaces s

def items? (value? : List Char → Option (Value × List Char)) :
    Nat → List Char → Option (List Value × List Char)
  | 0, _ => none
  | fuel + 1, s =>
    match dropTrivia s.length s with
    | ']' :: rest => some ([], rest)
    | s => do
      let (v, rest) ← value? s
      match dropTrivia rest.length rest with
      | ',' :: rest => do
        let (vs, rest) ← items? value? fuel rest
        pure (v :: vs, rest)
      | ']' :: rest => pure ([v], rest)
      | _ => none

def entries? (value? : List Char → Option (Value × List Char)) :
    Nat → List Char → Option (List (List String × Value) × List Char)
  | 0, _ => none
  | fuel + 1, s => do
    let (path, rest) ← key? s
    match rest with
    | '=' :: rest => do
      let (v, rest) ← value? (dropSpaces rest)
      match dropSpaces rest with
      | ',' :: rest => do
        let (es, rest) ← entries? value? fuel rest
        pure ((path, v) :: es, rest)
      | '}' :: rest => pure ([(path, v)], rest)
      | _ => none
    | _ => none

/-- A value in which arrays and inline tables nest at most `depth` deep. -/
def value? (depth : Nat) (s : List Char) : Option (Value × List Char) :=
  match depth, s with
  | depth + 1, '[' :: rest => do
    let (vs, rest) ← items? (value? depth) rest.length rest
    pure (.seq vs, rest)
  | depth + 1, '{' :: rest =>
    match dropSpaces rest with
    | '}' :: rest => some (.map [], rest)
    | _ => do
      let (es, rest) ← entries? (value? depth) rest.length rest
      let v ← inlineTable? es
      pure (v, rest)
  | _, s => scalar? s

/-- What follows the line, of which only spaces and a comment may be left. -/
def finishLine? (s : List Char) : Option (List Char) :=
  match dropComment (dropSpaces s) with
  | [] => some []
  | rest => lineEnd? rest

def statement? : List Char → Option (Statement × List Char)
  | '[' :: '[' :: s => do
    let (path, rest) ← key? s
    match rest with
    | ']' :: ']' :: rest => pure (.element path, ← finishLine? rest)
    | _ => none
  | '[' :: s => do
    let (path, rest) ← key? s
    match rest with
    | ']' :: rest => pure (.table path, ← finishLine? rest)
    | _ => none
  | s => do
    let (path, rest) ← key? s
    match rest with
    | '=' :: rest => do
      let (v, rest) ← value? (depthLimit - 1) (dropSpaces rest)
      pure (.pair path v, ← finishLine? rest)
    | _ => none

/-- All statements. The fuel bounds the lines. -/
def statements? : Nat → List Char → Option (List Statement)
  | 0, _ => none
  | fuel + 1, s =>
    match dropSpaces s with
    | [] => some []
    | '#' :: rest => do statements? fuel (← finishLine? ('#' :: rest))
    | s =>
      match lineEnd? s with
      | some rest => statements? fuel rest
      | none => do
        let (first, rest) ← statement? s
        let others ← statements? fuel rest
        pure (first :: others)

end PluginWrapper.Toml
