/-!
Reading decimals as doubles.
-/

namespace PluginWrapper.Number

def digitsValue (base : Nat) (ds : List Nat) : Nat :=
  ds.foldl (fun n d => n * base + d) 0

/-- The digit that `c` is in the given base, for bases up to sixteen. -/
def digit? (base : Nat) (c : Char) : Option Nat :=
  let d :=
    if c.isDigit then c.toNat - '0'.toNat
    else if 'a' ≤ c && c ≤ 'f' then c.toNat - 'a'.toNat + 10
    else if 'A' ≤ c && c ≤ 'F' then c.toNat - 'A'.toNat + 10
    else base
  if d < base then some d else none

/-- A nonempty run of digits. -/
def natural? (base : Nat) (s : List Char) : Option Nat :=
  if s.isEmpty then none else (s.mapM (digit? base)).map (digitsValue base)

/-- The double nearest to `digits * 10 ^ exponent`. Exponents far outside the range of doubles are
decided by the magnitude alone. -/
def nearest (digits : Nat) (exponent : Int) : Float :=
  let top : Int := (Nat.toDigits 10 digits).length + exponent
  if digits = 0 || top < -400 then 0.0
  else if 400 < top then Float.ofBits 0x7FF0000000000000
  else if 0 ≤ exponent then Float.ofScientific (digits * Nat.pow 10 exponent.toNat) false 0
  else Float.ofScientific digits true (-exponent).toNat

/-- A leading sign; `true` is minus. -/
def splitSign : List Char → Bool × List Char
  | '+' :: r => (false, r)
  | '-' :: r => (true, r)
  | r => (false, r)

def exponent? (s : List Char) : Option Int :=
  let (minus, ds) := splitSign s
  (natural? 10 ds).map fun n => if minus then -(n : Int) else n

/-- Digits with at most one point and at least one digit, then an optional exponent. -/
def unsignedDecimal? (s : List Char) : Option Float := do
  let mantissa := s.takeWhile fun c => c != 'e' && c != 'E'
  let power ← match s.dropWhile fun c => c != 'e' && c != 'E' with
    | [] => some 0
    | _ :: r => exponent? r
  let whole := mantissa.takeWhile (· != '.')
  let rest := mantissa.dropWhile (· != '.')
  let n ← natural? 10 (whole ++ rest.drop 1)
  pure (nearest n (power - (rest.drop 1).length))

def decimal? (s : List Char) : Option Float :=
  let (minus, r) := splitSign s
  (unsignedDecimal? r).map fun x => if minus then -x else x

end PluginWrapper.Number
