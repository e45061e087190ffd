import PluginWrapper.Number.Reading

/-!
The four string notations of TOML. Each reader starts behind the opening quotes and answers the text
and what follows the closing ones.
-/

namespace PluginWrapper.Toml

def isPlain (c : Char) : Bool :=
  c == '\t' || (0x20 ≤ c.toNat && c.toNat != 0x7F)

def isSpace (c : Char) : Bool :=
  c == ' ' || c == '\t'

def dropSpaces (s : List Char) : List Char :=
  s.dropWhile isSpace

def lineEnd? : List Char → Option (List Char)
  | '\n' :: rest => some rest
  | '\r' :: '\n' :: rest => some rest
  | _ => none

def dropBlankLines : List Char → List Char
  | '\r' :: '\n' :: rest => dropBlankLines rest
  | c :: rest => if isSpace c || c == '\n' then dropBlankLines rest else c :: rest
  | [] => []

def codePoint? (count : Nat) (s : List Char) : Option (Char × List Char) := do
  let n ← Number.natural? 16 (s.take count)
  if s.length < count then none
  else if n.isValidChar then some (Char.ofNat n, s.drop count) else none

def escape? : List Char → Option (Char × List Char)
  | 'b' :: rest => some ('\x08', rest)
  | 't' :: rest => some ('\t', rest)
  | 'n' :: rest => some ('\n', rest)
  | 'f' :: rest => some ('\x0c', rest)
  | 'r' :: rest => some ('\r', rest)
  | '"' :: rest => some ('"', rest)
  | '\\' :: rest => some ('\\', rest)
  | 'u' :: rest => codePoint? 4 rest
  | 'U' :: rest => codePoint? 8 rest
  | _ => none

/-- A basic string. The fuel bounds the characters. -/
def basicString : Nat → List Char → Option (List Char × List Char)
  | 0, _ => none
  | _ + 1, [] => none
  | _ + 1, '"' :: rest => some ([], rest)
  | fuel + 1, '\\' :: rest => do
    let (c, rest) ← escape? rest
    let (text, rest) ← basicString fuel rest
    pure (c :: text, rest)
  | fuel + 1, c :: rest => do
    if !isPlain c then none
    let (text, rest) ← basicString fuel rest
    pure (c :: text, rest)

def literalString (s : List Char) : Option (List Char × List Char) :=
  let text := s.takeWhile (· != '\'')
  match s.dropWhile (· != '\'') with
  | _ :: rest => if text.all isPlain then some (text, rest) else none
  | [] => none

/-- A backslash at the end of a line drops the blanks up to the next text. -/
def continuation? (s : List Char) : Option (List Char) :=
  (lineEnd? (dropSpaces s)).map dropBlankLines

/-- A multi-line string between `quote`s. Up to two quotes may stand next to the closing three. -/
def multiLineString (quote : Char) (escapes : Bool) : Nat → List Char →
    Option (List Char × List Char)
  | 0, _ => none
  | _ + 1, [] => none
  | fuel + 1, c :: rest =>
    let quotes := ((c :: rest).takeWhile (· == quote)).length
    if quotes = 0 then
      if escapes && c == '\\' then
        match continuation? rest with
        | some rest => multiLineString quote escapes fuel rest
        | none => do
          let (e, rest) ← escape? rest
          let (text, rest) ← multiLineString quote escapes fuel rest
          pure (e :: text, rest)
      else
        match lineEnd? (c :: rest) with
        | some rest => do
          let (text, rest) ← multiLineString quote escapes fuel rest
          pure ('\n' :: text, rest)
        | none => do
          if !isPlain c then none
          let (text, rest) ← multiLineString quote escapes fuel rest
          pure (c :: text, rest)
    else if quotes < 3 then do
      let (text, rest) ← multiLineString quote escapes fuel ((c :: rest).drop quotes)
      pure (List.replicate quotes quote ++ text, rest)
    else if quotes ≤ 5 then some (List.replicate (quotes - 3) quote, (c :: rest).drop quotes)
    else none

/-- A string in any notation; a line end right behind three opening quotes is dropped. -/
def string? : List Char → Option (List Char × List Char)
  | '"' :: '"' :: '"' :: rest =>
    multiLineString '"' true rest.length ((lineEnd? rest).getD rest)
  | '"' :: rest => basicString rest.length rest
  | '\'' :: '\'' :: '\'' :: rest =>
    multiLineString '\'' false rest.length ((lineEnd? rest).getD rest)
  | '\'' :: rest => literalString rest
  | _ => none

end PluginWrapper.Toml
