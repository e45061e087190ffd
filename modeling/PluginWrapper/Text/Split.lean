/-!
Cutting a text at a separator, and joining the pieces again.
-/

namespace PluginWrapper.Text

/-- The pieces between the separators, empty ones included; there is always one. -/
def split (sep : Char) : List Char → List (List Char)
  | [] => [[]]
  | c :: rest =>
    if c = sep then [] :: split sep rest
    else match split sep rest with
      | [] => [[c]]
      | piece :: pieces => (c :: piece) :: pieces

def join (sep : Char) : List (List Char) → List Char
  | [] => []
  | [piece] => piece
  | piece :: pieces => piece ++ sep :: join sep pieces

def cut? (sep : Char) : List Char → Option (List Char × List Char)
  | [] => none
  | c :: rest =>
    if c = sep then some ([], rest)
    else (cut? sep rest).map fun (before, after) => (c :: before, after)

theorem split_ne_nil (sep : Char) (s : List Char) : split sep s ≠ [] := by
  cases s with
  | nil => simp [split]
  | cons c rest =>
    rw [split]
    split
    · simp
    · split <;> simp

theorem join_split (sep : Char) (s : List Char) : join sep (split sep s) = s := by
  induction s with
  | nil => rfl
  | cons c rest ih =>
    rw [split]
    split
    · rename_i h
      cases hp : split sep rest with
      | nil => exact absurd hp (split_ne_nil sep rest)
      | cons piece pieces =>
        rw [hp] at ih
        simp [join, ih, h]
    · split
      · rename_i hp
        exact absurd hp (split_ne_nil sep rest)
      · rename_i piece pieces hp
        rw [hp] at ih
        cases pieces <;> simp_all [join]

end PluginWrapper.Text
