/-!
Shortest decimals. A double stands for all reals that round to it; the shortest decimal in that
interval, and of several the one nearest to the double, is the one to print. If two are equally
near, a choice decides.
-/

namespace PluginWrapper.Number

/-- The positive rational `numerator / denominator`. -/
structure Ratio where
  numerator : Nat
  denominator : Nat

namespace Ratio

def scaled (m : Nat) (e : Int) : Ratio :=
  if 0 ≤ e then ⟨m * Nat.pow 2 e.toNat, 1⟩ else ⟨m, Nat.pow 2 (-e).toNat⟩

def decimal (digits : Nat) (exponent : Int) : Ratio :=
  if 0 ≤ exponent then ⟨digits * Nat.pow 10 exponent.toNat, 1⟩
  else ⟨digits, Nat.pow 10 (-exponent).toNat⟩

def lt (x y : Ratio) : Bool :=
  x.numerator * y.denominator < y.numerator * x.denominator

def le (x y : Ratio) : Bool :=
  x.numerator * y.denominator ≤ y.numerator * x.denominator

def distance (x y : Ratio) : Ratio :=
  let a := x.numerator * y.denominator
  let b := y.numerator * x.denominator
  ⟨(a - b) + (b - a), x.denominator * y.denominator⟩

end Ratio

/-- The reals that round to a double, and the double itself. -/
structure Rounding where
  value : Ratio
  lower : Ratio
  upper : Ratio
  /-- The ends round to the double too. -/
  closed : Bool

def Rounding.contains (r : Rounding) (x : Ratio) : Bool :=
  if r.closed then r.lower.le x && x.le r.upper else r.lower.lt x && x.lt r.upper

/-- The rounding interval of the double with exponent field `field` and fraction `fraction`. -/
def Rounding.ofFields (field fraction : Nat) : Rounding :=
  let m := if field = 0 then fraction else fraction + Nat.pow 2 52
  let e : Int := (if field = 0 then 1 else field) - 1075
  -- Below a power of two the doubles lie twice as close.
  let narrow := fraction = 0 && 1 < field
  { value := .scaled m e
    lower := if narrow then .scaled (4 * m - 1) (e - 2) else .scaled (2 * m - 1) (e - 1)
    upper := .scaled (2 * m + 1) (e - 1)
    closed := m % 2 == 0 }

/-- The number of places before the point: `10 ^ (magnitude x - 1) ≤ x < 10 ^ magnitude x`. -/
def magnitude (x : Ratio) : Int :=
  let integral := x.numerator / x.denominator
  if 0 < integral then (Nat.toDigits 10 integral).length
  else
    let places := (Nat.toDigits 10 (x.denominator / x.numerator)).length
    -- The reciprocal fixes the magnitude up to one.
    if (Ratio.decimal 1 (-(places : Int))).le x then 1 - (places : Int) else -(places : Int)

/-- Which of two equally near decimals is chosen. -/
inductive Tie where
  | up
  | even
  deriving DecidableEq

/-- Whether a value between `below` and its successor goes down, if it is as near to the one as to
the other. -/
def Tie.goesDown (tie : Tie) (below : Nat) : Bool :=
  match tie with
  | .up => false
  | .even => below % 2 == 0

/-- The better of the two neighbours of the value on the grid of step `10 ^ exponent`. -/
def onGrid? (tie : Tie) (r : Rounding) (exponent : Int) : Option Nat :=
  let unit := Ratio.decimal 1 exponent
  let below := r.value.numerator * unit.denominator / (r.value.denominator * unit.numerator)
  let fits (d : Nat) : Bool := 0 < d && r.contains (.decimal d exponent)
  let far (d : Nat) : Ratio := (Ratio.decimal d exponent).distance r.value
  let prefersBelow :=
    (far below).lt (far (below + 1)) ||
      (tie.goesDown below && (far below).le (far (below + 1)))
  if fits below && (!fits (below + 1) || prefersBelow) then some below
  else if fits (below + 1) then some (below + 1)
  else none

/-- Digits and exponent of the shortest decimal that rounds to the double; seventeen digits are
always enough. -/
def Rounding.shortest (tie : Tie) (r : Rounding) : Nat × Int :=
  let top := magnitude r.value
  let grids := (List.range 17).map fun (k : Nat) => top - 1 - (k : Int)
  match grids.findSome? fun e => (onGrid? tie r e).map (·, e) with
  -- The upper neighbour of 9 is a digit longer.
  | some (10, e) => (1, e + 1)
  | found => found.getD (0, 0)

end PluginWrapper.Number
