import PluginWrapper.Toml.Quotation
import PluginWrapper.Value

/-!
Numbers, dates and truth values of TOML, read from the word that spells them.
-/

namespace PluginWrapper.Toml

/-- The digits of a number without the underscores, each of which stands between two digits. -/
def underscored? (isDigit : Char → Bool) : List Char → Option (List Char)
  | [] => none
  | [c] => if isDigit c then some [c] else none
  | c :: '_' :: rest => if isDigit c then (underscored? isDigit rest).map (c :: ·) else none
  | c :: rest => if isDigit c then (underscored? isDigit rest).map (c :: ·) else none

def wholePart? (s : List Char) : Option (List Char) :=
  match s with
  | '0' :: _ :: _ => none
  | _ => underscored? Char.isDigit s

def inRange? (n : Int) : Option Value :=
  if -Int.pow 2 63 ≤ n ∧ n < Int.pow 2 63 then some (.int n) else none

def integer? : List Char → Option Value
  | '0' :: 'x' :: ds => radix 16 ds
  | '0' :: 'o' :: ds => radix 8 ds
  | '0' :: 'b' :: ds => radix 2 ds
  | s => do
    let (minus, ds) := Number.splitSign s
    let n ← Number.natural? 10 (← wholePart? ds)
    inRange? (if minus then -(n : Int) else n)
where
  radix (base : Nat) (s : List Char) : Option Value := do
    let n ← Number.natural? base (← underscored? (fun c => (Number.digit? base c).isSome) s)
    inRange? n

def isExponentMark (c : Char) : Bool :=
  c == 'e' || c == 'E'

/-- A decimal with a fraction or an exponent. One too large for a double is refused, unless it is
negative. -/
def decimal? (s : List Char) : Option Value := do
  let (minus, s) := Number.splitSign s
  let mantissa := s.takeWhile (!isExponentMark ·)
  let whole ← wholePart? (mantissa.takeWhile (· != '.'))
  let fraction ← match mantissa.dropWhile (· != '.') with
    | [] => some []
    | _ :: ds => underscored? Char.isDigit ds
  let exponent ← match s.dropWhile (!isExponentMark ·) with
    | [] => if fraction.isEmpty then none else some 0
    | _ :: r => do
      let (minus, ds) := Number.splitSign r
      let n ← Number.natural? 10 (← underscored? Char.isDigit ds)
      pure (if minus then -(n : Int) else n)
  let digits ← Number.natural? 10 (whole ++ fraction)
  let x := Number.nearest digits (exponent - fraction.length)
  if x.isInf && !minus then none else pure (.float (if minus then -x else x))

def special? (s : List Char) : Option Value :=
  let (minus, word) := Number.splitSign s
  let infinity := Float.ofBits 0x7FF0000000000000
  if word = "inf".toList then some (.float (if minus then -infinity else infinity))
  else if word = "nan".toList then some (.float (Float.ofBits 0x7FF8000000000000))
  else none

def twoDigits? (low high : Nat) (a b : Char) : Option Nat := do
  let n ← Number.natural? 10 [a, b]
  if low ≤ n ∧ n ≤ high then some n else none

def daysIn (year month : Nat) : Nat :=
  if month = 2 then
    if year % 4 = 0 ∧ (year % 100 ≠ 0 ∨ year % 400 = 0) then 29 else 28
  else if month = 4 ∨ month = 6 ∨ month = 9 ∨ month = 11 then 30
  else 31

def day? : List Char → Option (List Char × List Char)
  | y₁ :: y₂ :: y₃ :: y₄ :: '-' :: m₁ :: m₂ :: '-' :: d₁ :: d₂ :: rest => do
    let year ← Number.natural? 10 [y₁, y₂, y₃, y₄]
    let month ← twoDigits? 1 12 m₁ m₂
    let _ ← twoDigits? 1 (daysIn year month) d₁ d₂
    pure ([y₁, y₂, y₃, y₄, '-', m₁, m₂, '-', d₁, d₂], rest)
  | _ => none

/-- A fraction of a second: nine places count, and zeros at the end are dropped. -/
def fraction? (s : List Char) : Option (List Char × List Char) :=
  match s with
  | '.' :: rest =>
    let ds := rest.takeWhile Char.isDigit
    if ds.isEmpty then none
    else
      let kept := ((ds.take 9).reverse.dropWhile (· == '0')).reverse
      some (if kept.isEmpty then [] else '.' :: kept, rest.dropWhile Char.isDigit)
  | _ => some ([], s)

def time? : List Char → Option (List Char × List Char)
  | h₁ :: h₂ :: ':' :: m₁ :: m₂ :: ':' :: s₁ :: s₂ :: rest => do
    let _ ← twoDigits? 0 23 h₁ h₂
    let _ ← twoDigits? 0 59 m₁ m₂
    let _ ← twoDigits? 0 60 s₁ s₂
    let (fraction, rest) ← fraction? rest
    pure ([h₁, h₂, ':', m₁, m₂, ':', s₁, s₂] ++ fraction, rest)
  | _ => none

def offset? : List Char → Option (List Char)
  | [] => some []
  | ['Z'] => some ['Z']
  | ['z'] => some ['Z']
  | [sign, h₁, h₂, ':', m₁, m₂] => do
    if sign != '+' && sign != '-' then none
    let hours ← twoDigits? 0 23 h₁ h₂
    let minutes ← twoDigits? 0 59 m₁ m₂
    let sign := if hours = 0 ∧ minutes = 0 then '+' else sign
    pure [sign, h₁, h₂, ':', m₁, m₂]
  | _ => none

/-- A day, a time of day, or both with an optional offset. -/
def moment? (s : List Char) : Option Value :=
  match day? s with
  | some (day, []) => some (.date (String.ofList day))
  | some (day, mark :: rest) => do
    if mark != 'T' && mark != 't' && mark != ' ' then none
    let (time, rest) ← time? rest
    let offset ← offset? rest
    pure (.date (String.ofList (day ++ 'T' :: time ++ offset)))
  | none => do
    let (time, rest) ← time? s
    if rest.isEmpty then pure (.date (String.ofList time)) else none

def truth? (s : List Char) : Option Value :=
  if s = "true".toList then some (.bool true)
  else if s = "false".toList then some (.bool false)
  else none

def isWordChar (c : Char) : Bool :=
  c.isAlphanum || c == '_' || c == '+' || c == '-' || c == '.' || c == ':'

/-- The word at the front. A day may be followed by a space and a time. -/
def word (s : List Char) : List Char × List Char :=
  let first := s.takeWhile isWordChar
  let rest := s.dropWhile isWordChar
  match day? first, rest with
  | some (_, []), ' ' :: c :: more =>
    if c.isDigit then
      (first ++ ' ' :: (c :: more).takeWhile isWordChar, (c :: more).dropWhile isWordChar)
    else (first, rest)
  | _, _ => (first, rest)

def scalar? (s : List Char) : Option (Value × List Char) :=
  match string? s with
  | some (text, rest) => some (.str (String.ofList text), rest)
  | none =>
    let (w, rest) := word s
    (moment? w <|> decimal? w <|> special? w <|> integer? w <|> truth? w).map (·, rest)

end PluginWrapper.Toml
