import PluginWrapper.Text.CaseTable

/-!
Full upper and lower case of a text, independent of any locale. A capital sigma at the end of a
word becomes the final form of the small letter; no other mapping looks at its neighbours.
-/

namespace PluginWrapper.Text

def shifted? (runs : List Run) (n : Nat) : Option Nat :=
  (runs.find? fun r => r.first ≤ n && n ≤ r.last && (n - r.first) % r.step == 0).map
    fun r => ((n : Int) + r.shift).toNat

def upperOf (c : Char) : List Char :=
  if c.toNat < 0x80 then [c.toUpper]
  else match upperExpansions.lookup c.toNat with
    | some expansion => expansion.map Char.ofNat
    | none => [((shifted? upperRuns c.toNat).map Char.ofNat).getD c]

def lowerOf (c : Char) : List Char :=
  if c.toNat < 0x80 then [c.toLower]
  else if c = 'İ' then ['i', '\u0307']
  else [((shifted? lowerRuns c.toNat).map Char.ofNat).getD c]

def isCased (c : Char) : Bool :=
  casedRanges.contains c || c.isAlpha

def isCaseIgnorable (c : Char) : Bool :=
  caseIgnorableRanges.contains c

/-- A cased letter comes first once the case-ignorable characters are skipped. -/
def meetsCased (s : List Char) : Bool :=
  ((s.dropWhile isCaseIgnorable).head?.map isCased).getD false

/-- `before` holds what precedes the text, the nearest character first. -/
def lowerAfter (before : List Char) : List Char → List Char
  | [] => []
  | c :: after =>
    let here :=
      if c = 'Σ' then [if meetsCased before && !meetsCased after then 'ς' else 'σ'] else lowerOf c
    here ++ lowerAfter (c :: before) after

def upper (s : String) : String :=
  String.ofList (s.toList.flatMap upperOf)

def lower (s : String) : String :=
  String.ofList (lowerAfter [] s.toList)

/-- Lower case of the ASCII letters; all other characters are kept. -/
def lowerAscii (s : List Char) : List Char :=
  s.map Char.toLower

def upperAscii (s : List Char) : List Char :=
  s.map Char.toUpper

example : lower "ΟΔΥΣΣΕΥΣ" = "οδυσσευς" := by decide +kernel
example : upper "Straße ŉ" = "STRASSE ʼN" := by decide +kernel

end PluginWrapper.Text
