import Mathlib.Data.List.Induction
import PluginWrapper.FileTree
import PluginWrapper.Proofs.Path

/-! Files made below a directory of a file tree, with the directories on the way to them. -/
namespace PluginWrapper

namespace Location

def down (here : Location) (names : List (List Char)) : Location :=
  here ++ names.map String.ofList

/-- The locations on the way down, the last one included. -/
def levels (here : Location) : List (List Char) → List Location
  | [] => []
  | name :: rest => here.down [name] :: levels (here.down [name]) rest

@[simp] theorem down_nil (here : Location) : here.down [] = here :=
  List.append_nil here

theorem down_append (here : Location) (first second : List (List Char)) :
    here.down (first ++ second) = (here.down first).down second := by
  simp [down]

theorem down_ne_nil (here : Location) {names : List (List Char)} (h : names ≠ []) :
    here.down names ≠ [] := by
  simp [down, h]

theorem down_inj {here : Location} {first second : List (List Char)} :
    here.down first = here.down second ↔ first = second := by
  refine ⟨fun h => ?_, fun h => h ▸ rfl⟩
  exact (List.map_inj_right fun _ _ => String.ofList_inj.mp).mp (List.append_cancel_left h)

theorem prefix_of_down {here : Location} {first second : List (List Char)}
    (h : here.down first <+: here.down second) : first <+: second := by
  obtain ⟨rest, hrest⟩ := (List.prefix_append_right_inj here).mp h
  obtain ⟨front, back, rfl, hfront, -⟩ := List.map_eq_append_iff.mp hrest.symm
  obtain rfl := (List.map_inj_right fun _ _ => String.ofList_inj.mp).mp hfront
  exact List.prefix_append front back

theorem levels_concat (here : Location) (names : List (List Char)) (name : List Char) :
    here.levels (names ++ [name]) = here.levels names ++ [here.down (names ++ [name])] := by
  induction names generalizing here with
  | nil => rfl
  | cons first names ih =>
    rw [List.cons_append, levels, ih, levels, List.cons_append, ← down_append]
    rfl

theorem mem_levels {here level : Location} {names : List (List Char)} :
    level ∈ here.levels names ↔
      ∃ front, front ≠ [] ∧ front <+: names ∧ level = here.down front := by
  induction names using List.reverseRecOn with
  | nil => simp [levels]
  | append_singleton names name ih =>
    rw [levels_concat, List.mem_append, List.mem_singleton, ih]
    constructor
    · rintro (⟨front, hne, hfront, rfl⟩ | rfl)
      · exact ⟨front, hne, hfront.trans (List.prefix_append names [name]), rfl⟩
      · exact ⟨names ++ [name], by simp, List.prefix_refl _, rfl⟩
    · rintro ⟨front, hne, hfront, rfl⟩
      rcases List.prefix_concat_iff.mp hfront with rfl | hfront
      · exact .inr rfl
      · exact .inl ⟨front, hne, hfront, rfl⟩

theorem down_concat_not_mem_levels (here : Location) (names : List (List Char))
    (name : List Char) : here.down (names ++ [name]) ∉ here.levels names := by
  intro h
  obtain ⟨front, -, hfront, heq⟩ := mem_levels.mp h
  rw [← down_inj.mp heq] at hfront
  have hlength := hfront.length_le
  rw [List.length_append, List.length_singleton] at hlength
  omega

end Location

namespace FileTree

theorem node?_put (t : FileTree) {here : Location} (hne : here ≠ []) (node : Node)
    (there : Location) :
    (t.put here node).node? there = if here = there then some node else t.node? there := by
  by_cases h : here = there
  · subst h
    simp [node?, put, hne]
  · simp [node?, put, h, Std.ExtTreeMap.getElem?_insert]

theorem put_put (t : FileTree) (here : Location) (first second : Node) :
    (t.put here first).put here second = t.put here second := by
  have h : (t.nodes.insert here first).insert here second = t.nodes.insert here second := by
    apply Std.ExtTreeMap.ext_getElem?
    intro there
    by_cases h : here = there <;> simp [Std.ExtTreeMap.getElem?_insert, h]
  rw [put, put, put, h]

theorem put_of_node? {t : FileTree} {here : Location} {node : Node} (hne : here ≠ [])
    (h : t.node? here = some node) : t.put here node = t := by
  rw [node?, if_neg hne] at h
  have hnodes : t.nodes.insert here node = t.nodes := by
    apply Std.ExtTreeMap.ext_getElem?
    intro there
    by_cases hthere : here = there
    · subst hthere
      simp [h]
    · simp [Std.ExtTreeMap.getElem?_insert, hthere]
  rw [put, hnodes]

theorem append_put (t : FileTree) {here : Location} (hne : here ≠ []) (first second : Bytes) :
    (t.put here (.file first)).append here second = t.put here (.file (first ++ second)) := by
  rw [append, node?_put _ hne, if_pos rfl]
  exact put_put _ _ _ _

/-- What a tree shows, and its working directory, is all there is to it. What it might hold at the
root is never shown. -/
theorem eq_of_node? {t u : FileTree} (hworking : t.workingDirectory = u.workingDirectory)
    (hroot : t.nodes[([] : Location)]? = u.nodes[([] : Location)]?)
    (hnode : ∀ here, t.node? here = u.node? here) : t = u := by
  have hnodes : t.nodes = u.nodes := by
    apply Std.ExtTreeMap.ext_getElem?
    intro here
    by_cases hne : here = []
    · rw [hne, hroot]
    · simpa [node?, hne] using hnode here
  cases t
  cases u
  cases hnodes
  cases hworking
  rfl

/-- Makes every location on the way down a directory. -/
def makeWay (t : FileTree) (here : Location) (names : List (List Char)) : FileTree :=
  (here.levels names).foldl (fun t level => t.put level .directory) t

def plant (t : FileTree) (here : Location) (route : List (List Char)) (bytes : Bytes) : FileTree :=
  (t.makeWay here route.dropLast).put (here.down route) (.file bytes)

theorem makeWay_concat (t : FileTree) (here : Location) (names : List (List Char))
    (name : List Char) :
    t.makeWay here (names ++ [name]) =
      (t.makeWay here names).put (here.down (names ++ [name])) .directory := by
  rw [makeWay, Location.levels_concat, List.foldl_append]
  rfl

theorem node?_makeWay (t : FileTree) (here : Location) (names : List (List Char))
    (there : Location) :
    (t.makeWay here names).node? there =
      if there ∈ here.levels names then some .directory else t.node? there := by
  induction names using List.reverseRecOn with
  | nil => simp [makeWay, Location.levels]
  | append_singleton names name ih =>
    rw [makeWay_concat, node?_put _ (here.down_ne_nil (by simp)), ih, Location.levels_concat]
    by_cases h : here.down (names ++ [name]) = there
    · simp [h]
    · simp [h, Ne.symm h]

theorem node?_level_makeWay (t : FileTree) (here : Location) (names : List (List Char))
    (level : Location) (h : level ∈ here.levels names) :
    (t.makeWay here names).node? level = some .directory := by
  rw [node?_makeWay, if_pos h]

theorem makeWay_workingDirectory (t : FileTree) (here : Location) (names : List (List Char)) :
    (t.makeWay here names).workingDirectory = t.workingDirectory := by
  induction names using List.reverseRecOn with
  | nil => rfl
  | append_singleton names name ih => rw [makeWay_concat, put, ih]

theorem makeWay_eq_self {t : FileTree} {here : Location} {names : List (List Char)}
    (h : ∀ level ∈ here.levels names, t.node? level = some .directory) :
    t.makeWay here names = t := by
  induction names using List.reverseRecOn with
  | nil => rfl
  | append_singleton names name ih =>
    rw [Location.levels_concat] at h
    rw [makeWay_concat, ih fun level hlevel => h level (List.mem_append_left _ hlevel)]
    exact put_of_node? (here.down_ne_nil (by simp)) (h _ (by simp))

theorem node?_plant (t : FileTree) (here : Location) {route : List (List Char)} (hne : route ≠ [])
    (bytes : Bytes) (there : Location) :
    (t.plant here route bytes).node? there =
      if here.down route = there then some (.file bytes)
      else if there ∈ here.levels route.dropLast then some .directory
      else t.node? there := by
  rw [plant, node?_put _ (here.down_ne_nil hne), node?_makeWay]

end FileTree

end PluginWrapper
