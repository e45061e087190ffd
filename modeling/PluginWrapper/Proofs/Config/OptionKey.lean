import Mathlib.Data.List.Forall2
import PluginWrapper.Proofs.Config.Separation

/-! Which options variables can set. The names of variables are folded to those of options: names
that fold to one and the same set one option, and an option whose name is no folding is out of the
reach of every variable. -/
namespace PluginWrapper.Variable

/-- A character of a variable's name, as it stands in the name of the option. -/
def folded (c : Char) : Char :=
  if c.toLower = '_' then '.' else c.toLower

/-- The names of options do not tell the characters apart: they are a letter of ASCII in either
case, or an underscore and a point. -/
def Alike (c d : Char) : Prop :=
  c.toLower = d.toLower ∨ c ∈ ['_', '.'] ∧ d ∈ ['_', '.']

def IsFolded (s : String) : Prop :=
  ∀ c ∈ s.toList, c.isUpper = false ∧ c ≠ '_'

instance (c d : Char) : Decidable (Alike c d) :=
  inferInstanceAs (Decidable (c.toLower = d.toLower ∨ c ∈ ['_', '.'] ∧ d ∈ ['_', '.']))

instance (s : String) : Decidable (IsFolded s) :=
  List.decidableBAll (fun c : Char => c.isUpper = false ∧ c ≠ '_') s.toList

/-- The usual spelling: capital letters, and underscores between the words. -/
def nameOf (s : String) : String :=
  String.ofList ((Text.upperAscii s.toList).map fun c => if c = '.' then '_' else c)

variable {c d : Char} {a b s : String}

private theorem toLower_eq_underscore : c.toLower = '_' ↔ c = '_' :=
  Text.toLower_eq_iff (by decide) c

private theorem toLower_eq_point : c.toLower = '.' ↔ c = '.' :=
  Text.toLower_eq_iff (by decide) c

private theorem folded_of_ne (h : c ≠ '_') : folded c = c.toLower :=
  if_neg (mt toLower_eq_underscore.mp h)

private theorem folded_eq_point : folded c = '.' ↔ c ∈ ['_', '.'] := by
  by_cases h : c = '_'
  · simp [h, folded]
  · simp [folded_of_ne h, toLower_eq_point, h]

private theorem folded_eq_iff : folded c = folded d ↔ Alike c d := by
  constructor
  · intro h
    by_cases hc : c ∈ ['_', '.']
    · exact .inr ⟨hc, folded_eq_point.mp (h ▸ folded_eq_point.mpr hc)⟩
    · have hd : d ∉ ['_', '.'] := fun hd =>
        hc (folded_eq_point.mp (h.trans (folded_eq_point.mpr hd)))
      have hlower : ∀ {c : Char}, c ∉ ['_', '.'] → folded c = c.toLower := fun h =>
        folded_of_ne fun heq => h (by simp [heq])
      rw [hlower hc, hlower hd] at h
      exact .inl h
  · rintro (h | ⟨hc, hd⟩)
    · rw [folded, folded, h]
    · rw [folded_eq_point.mpr hc, folded_eq_point.mpr hd]

private theorem isFolded_folded (c : Char) : (folded c).isUpper = false ∧ folded c ≠ '_' := by
  by_cases h : c = '_'
  · subst h
    decide
  · rw [folded_of_ne h]
    exact ⟨Text.isUpper_toLower c, mt toLower_eq_underscore.mp h⟩

/-- The usual spelling of a character is read as the character. -/
private theorem folded_spelling (h : c.isUpper = false ∧ c ≠ '_') :
    folded (if c.toUpper = '.' then '_' else c.toUpper) = c := by
  have hlower : c.toUpper.toLower = c := Text.toLower_toUpper h.1
  split
  · rename_i hpoint
    rw [← hlower, hpoint]
    rfl
  · rw [folded, hlower, if_neg h.2]

theorem optionKey?_eq_none : optionKey? a = none ↔ a = "" := by
  simp [optionKey?]

theorem optionKey?_of_ne_empty (h : a ≠ "") :
    optionKey? a = some ("cubeengine." ++ String.ofList (a.toList.map folded)) := by
  have hmap : (Text.lowerAscii a.toList).map (fun c => if c = '_' then '.' else c) =
      a.toList.map folded := List.map_map
  rw [optionKey?, if_neg (by simpa using h), hmap]
  rfl

theorem optionKey?_eq_iff (ha : a ≠ "") (hb : b ≠ "") : optionKey? a = optionKey? b ↔
    a.length = b.length ∧ ∀ p ∈ a.toList.zip b.toList, Alike p.1 p.2 := by
  have hfolded : a.toList.map folded = b.toList.map folded ↔
      List.Forall₂ Alike a.toList b.toList := by
    rw [← List.forall₂_eq_eq_eq, List.forall₂_map_left_iff, List.forall₂_map_right_iff]
    simp only [folded_eq_iff]
  rw [optionKey?_of_ne_empty ha, optionKey?_of_ne_empty hb, Option.some_inj,
    String.append_right_inj, String.ofList_inj, hfolded, List.forall₂_iff_zip,
    String.length_toList, String.length_toList]
  simp

private theorem map_folded_nameOf (h : IsFolded s) : (nameOf s).toList.map folded = s.toList := by
  have hread : ∀ c ∈ s.toList, folded (if c.toUpper = '.' then '_' else c.toUpper) = c :=
    fun c hc => folded_spelling (h c hc)
  rw [nameOf, String.toList_ofList, Text.upperAscii, List.map_map, List.map_map]
  exact (List.map_congr_left hread).trans (List.map_id s.toList)

private theorem nameOf_ne_empty (h : s ≠ "") : nameOf s ≠ "" := by
  simpa [nameOf, Text.upperAscii] using h

theorem optionKey?_nameOf (hne : s ≠ "") (h : IsFolded s) :
    optionKey? (nameOf s) = some ("cubeengine." ++ s) := by
  rw [optionKey?_of_ne_empty (nameOf_ne_empty hne), map_folded_nameOf h, String.ofList_toList]

theorem exists_optionKey?_eq_some {key : String} : (∃ name, optionKey? name = some key) ↔
    ∃ s, s ≠ "" ∧ IsFolded s ∧ key = "cubeengine." ++ s := by
  constructor
  · rintro ⟨name, hname⟩
    have hne : name ≠ "" := fun h => by simp [optionKey?_eq_none.mpr h] at hname
    rw [optionKey?_of_ne_empty hne, Option.some_inj] at hname
    refine ⟨String.ofList (name.toList.map folded), by simpa using hne, ?_, hname.symm⟩
    rw [IsFolded, String.toList_ofList, List.forall_mem_map]
    exact fun c _ => isFolded_folded c
  · rintro ⟨s, hne, hfolded, rfl⟩
    exact ⟨nameOf s, optionKey?_nameOf hne hfolded⟩

/-- The name is that of a variable for an option, but for blanks around it and the case of ASCII
letters. -/
def isForOption (name : String) : Bool :=
  "cubegen__options__".toList.isPrefixOf (spelled name)

private theorem keyPath?_of_isForOption {name : String} (h : isForOption name = true) :
    keyPath? name = none := by
  obtain ⟨rest, hrest⟩ := List.isPrefixOf_iff_prefix.mp h
  obtain ⟨lead', rest', hname, hlead, -⟩ := List.map_eq_append_iff.mp hrest.symm
  exact keyPath?_of_option hname hlead

private theorem isBlank_folded (c : Char) : Text.isBlank (folded c) = Text.isBlank c := by
  by_cases h : c = '_'
  · subst h
    decide
  · rw [folded_of_ne h, Text.isBlank_toLower]

private theorem isTrimmed_map_folded {t : List Char} :
    Text.IsTrimmed (t.map folded) ↔ Text.IsTrimmed t := by
  constructor
  · intro h
    exact ⟨by simpa [isBlank_folded] using h.head, by simpa [isBlank_folded] using h.last⟩
  · intro h
    exact ⟨by simpa [isBlank_folded] using h.head, by simpa [isBlank_folded] using h.last⟩

private theorem point_not_mem_nameOf (s : String) : '.' ∉ (nameOf s).toList := by
  rw [nameOf, String.toList_ofList, List.mem_map]
  rintro ⟨c, -, hpoint⟩
  split at hpoint
  · cases hpoint
  · exact absurd hpoint ‹_›

/-- In an environment the names of variables are trimmed, so an option cannot be set this way if
there is a blank at an end of its name. -/
theorem exists_option?_eq_some {key : String} : (∃ name, option? name = some key) ↔
    ∃ s, s ≠ "" ∧ IsFolded s ∧ Text.IsTrimmed s.toList ∧ key = "cubeengine." ++ s := by
  simp only [option?_eq_some]
  constructor
  · rintro ⟨name, rest, ⟨_, rest', -, -, hrest, -⟩, hkey⟩
    have hne : rest ≠ "" := fun h => by simp [optionKey?_eq_none.mpr h] at hkey
    rw [optionKey?_of_ne_empty hne, Option.some_inj] at hkey
    refine ⟨String.ofList (rest.toList.map folded), by simpa using hne, ?_, ?_, hkey.symm⟩
    · rw [IsFolded, String.toList_ofList, List.forall_mem_map]
      exact fun c _ => isFolded_folded c
    · rw [String.toList_ofList, isTrimmed_map_folded, hrest]
      exact Text.isTrimmed_trim rest'
  · rintro ⟨s, hne, hfolded, htrimmed, rfl⟩
    have hname : Text.IsTrimmed (nameOf s).toList := by
      rwa [← isTrimmed_map_folded, map_folded_nameOf hfolded]
    have hnil : (nameOf s).toList ≠ [] := by simpa using nameOf_ne_empty hne
    have hall : "CUBEGEN__OPTIONS__".toList.all (!Text.isBlank ·) = true := by decide
    have hlead : Text.IsTrimmed "CUBEGEN__OPTIONS__".toList :=
      Text.isTrimmed_of_forall (by simpa only [List.all_eq_true, Bool.not_eq_true'] using hall)
    refine ⟨"CUBEGEN__OPTIONS__" ++ nameOf s, nameOf s,
      ⟨"CUBEGEN__OPTIONS__".toList, (nameOf s).toList, ?_, by decide, ?_, ?_⟩,
      optionKey?_nameOf hne hfolded⟩
    · rw [String.toList_append]
      exact Text.trim_of_isTrimmed (hlead.append hname (by decide) hnil)
    · exact (Text.trim_of_isTrimmed hname).symm
    · rw [Text.split_of_not_mem (point_not_mem_nameOf s), List.mem_singleton]
      exact hnil.symm

/-- Every name but the empty one stands for an option below the root. Two names stand for the same
just when they are alike character by character, and the options that names stand for are those
whose own names are folded, each of which has a usual spelling. Any other option is what it would be
without all the variables for options. -/
theorem optionKey?_reaches_folded :
    (∀ name, optionKey? name = none ↔ name = "") ∧
    (∀ a b, a ≠ "" → b ≠ "" → (optionKey? a = optionKey? b ↔
      a.length = b.length ∧ ∀ p ∈ a.toList.zip b.toList, Alike p.1 p.2)) ∧
    (∀ key, (∃ name, optionKey? name = some key) ↔
      ∃ s, s ≠ "" ∧ IsFolded s ∧ key = "cubeengine." ++ s) ∧
    (∀ s, s ≠ "" → IsFolded s → optionKey? (nameOf s) = some ("cubeengine." ++ s)) ∧
    ∀ key, '_' ∈ key.toList ∨ (∃ c ∈ key.toList, c.isUpper = true) →
      ∀ (tree : FileTree) (env : Environment) (path : Option String),
        (Config.load tree (env.filter fun v => !isForOption v.1) path).map (·.options.get? key) =
          (Config.load tree env path).map (·.options.get? key) := by
  refine ⟨fun _ => optionKey?_eq_none, fun _ _ => optionKey?_eq_iff,
    fun _ => exists_optionKey?_eq_some, fun _ => optionKey?_nameOf,
    fun key hkey tree env path => ?_⟩
  have hunfolded : ¬ IsFolded key := by
    intro h
    rcases hkey with hmem | ⟨c, hmem, hupper⟩
    · exact (h '_' hmem).2 rfl
    · exact absurd hupper (by simp [(h c hmem).1])
  apply Config.get?_load_filter
  · intro v _ hdrop
    exact keyPath?_of_isForOption (by simpa using hdrop)
  · intro v _ _ hoption
    obtain ⟨s, -, hfolded, -, rfl⟩ := exists_option?_eq_some.mp ⟨v.1, hoption⟩
    have hroot : IsFolded "cubeengine." := by decide
    refine hunfolded ?_
    rw [IsFolded, String.toList_append, List.forall_mem_append]
    exact ⟨hroot, hfolded⟩

/-- Two spellings of one option, and an option that a variable only seems to name. -/
theorem optionKey?_reaches_folded_id :
    "MODULE_ID" ≠ "" ∧ "module.Id" ≠ "" ∧ optionKey? "MODULE_ID" = optionKey? "module.Id" ∧
    "module.id" ≠ "" ∧ IsFolded "module.id" ∧
    optionKey? (nameOf "module.id") = some "cubeengine.module.id" ∧
    '_' ∈ "cubeengine.MODULE_ID".toList ∧
    (Config.load (.inside ["work"]) [("CUBEGEN__OPTIONS__MODULE_ID", "eco")] none).map
      (·.options.get? "cubeengine.MODULE_ID") = .ok none := by
  obtain ⟨-, hsame, -, hname, hunset⟩ := optionKey?_reaches_folded
  have hfolded : IsFolded "module.id" := by decide
  have hunderscore : '_' ∈ "cubeengine.MODULE_ID".toList := by decide
  have halike : ∀ p ∈ "MODULE_ID".toList.zip "module.Id".toList, Alike p.1 p.2 := by decide
  refine ⟨by decide, by decide, (hsame _ _ (by decide) (by decide)).mpr ⟨by decide, halike⟩,
    by decide, hfolded, hname _ (by decide) hfolded, hunderscore, ?_⟩
  rw [← hunset _ (.inl hunderscore)]
  rfl

end PluginWrapper.Variable
