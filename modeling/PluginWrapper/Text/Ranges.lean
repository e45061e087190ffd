/-!
Sets of characters given by intervals of code points.
-/

namespace PluginWrapper.Text

/-- Closed intervals of code points. -/
abbrev Ranges := List (Nat × Nat)

def Ranges.contains (ranges : Ranges) (c : Char) : Bool :=
  ranges.any fun (first, last) => first ≤ c.toNat && c.toNat ≤ last

end PluginWrapper.Text
