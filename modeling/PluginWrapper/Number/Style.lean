import PluginWrapper.Number.Shortest

/-!
Styles of writing a double. All show as few digits as read back; they differ in how a tie goes, in
the point of a whole number, and in when an exponent is written.
-/

namespace PluginWrapper.Number

/-- One style; each format that shows doubles has its own. -/
structure Style where
  tie : Tie
  /-- Whether a whole number has a point and a zero behind it. -/
  showsPoint : Bool
  /-- The least and the greatest number of places before the point that need no exponent. Without
  bounds there never is one. -/
  places : Option (Int × Int)

/-- `digits * 10 ^ exponent` without an exponent: zeros fill the places up to the point. -/
def positional (showsPoint : Bool) (digits : Nat) (exponent : Int) : List Char :=
  let ds := Nat.toDigits 10 digits
  if 0 ≤ exponent then
    ds ++ List.replicate exponent.toNat '0' ++ (if showsPoint then ['.', '0'] else [])
  else
    let places := (-exponent).toNat
    let padded := List.replicate (places + 1 - ds.length) '0' ++ ds
    padded.take (padded.length - places) ++ '.' :: padded.drop (padded.length - places)

/-- The same with the point behind the first digit, and a signed exponent. -/
def scientific (digits : Nat) (exponent : Int) : List Char :=
  let ds := Nat.toDigits 10 digits
  let power := exponent + ds.length - 1
  let fraction := if 1 < ds.length then '.' :: ds.drop 1 else []
  ds.take 1 ++ fraction ++ 'e' :: (if power < 0 then '-' else '+') :: Nat.toDigits 10 power.natAbs

def Style.decimal (style : Style) (digits : Nat) (exponent : Int) : List Char :=
  let before := exponent + (Nat.toDigits 10 digits).length
  match style.places with
  | none => positional style.showsPoint digits exponent
  | some (least, greatest) =>
    if least ≤ before && before ≤ greatest then positional style.showsPoint digits exponent
    else scientific digits exponent

def Style.text (style : Style) (x : Float) : String :=
  let bits := x.toBits.toNat
  let field := bits / Nat.pow 2 52 % Nat.pow 2 11
  let fraction := bits % Nat.pow 2 52
  let sign := if bits < Nat.pow 2 63 then [] else ['-']
  if field = 2047 then
    if fraction = 0 then String.ofList (sign ++ ['i', 'n', 'f']) else "NaN"
  else if field = 0 && fraction = 0 then String.ofList (sign ++ positional style.showsPoint 0 0)
  else
    let (digits, exponent) := (Rounding.ofFields field fraction).shortest style.tie
    String.ofList (sign ++ style.decimal digits exponent)

end PluginWrapper.Number
