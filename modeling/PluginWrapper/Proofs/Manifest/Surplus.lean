import PluginWrapper.Proofs.Manifest.Grammar

/-! Cores that give more than a name and a package. As a table such a core is an error; as an array
it is read up to the package. -/
namespace PluginWrapper

namespace Value

/-- Whether the tree has more in it than a name and a package can fill. -/
def exceedsCore : Value → Bool
  | .map fields => fields.any (·.1 ∉ ["name", "package"])
  | .seq items => 2 < items.length
  | _ => false

def standsByPosition : Value → Bool
  | .seq (.str _ :: .str _ :: _) => true
  | _ => false

/-- The tree is a name and a package, and nothing more unless behind the package of an array. -/
inductive SpellsCore : Value → CoreEntry → Prop where
  | table {name package : String} {fields : List (String × Value)} :
    fields.Perm [("name", .str name), ("package", .str package)] →
    SpellsCore (.map fields) ⟨name, package⟩
  | array {name package : String} {rest : List Value} :
    SpellsCore (.seq (.str name :: .str package :: rest)) ⟨name, package⟩

private theorem perm_of_core {fields : List (String × Value)} {name package : String}
    (hknown : KeysAmong ["name", "package"] fields)
    (hname : FieldStates ["name"] IsText fields (some name))
    (hpackage : FieldStates ["package"] IsText fields (some package)) :
    fields.Perm [("name", .str name), ("package", .str package)] := by
  obtain ⟨_, hnames, rfl⟩ := hname.filter_eq
  obtain ⟨_, hpackages, rfl⟩ := hpackage.filter_eq
  have hothers : fields.filter (fun field => !decide (field.1 ∈ ["name"])) =
      fields.filter (·.1 ∈ ["package"]) := by
    refine List.filter_congr fun field hfield => ?_
    have hkey := hknown field hfield
    simp only [List.mem_cons, List.not_mem_nil, or_false] at hkey
    rcases hkey with hkey | hkey <;> rw [hkey] <;> decide
  have hparts := List.filter_append_perm (·.1 ∈ ["name"]) fields
  rw [hothers, hnames, hpackages] at hparts
  exact hparts.symm

private theorem isCore_of_perm {fields : List (String × Value)} {name package : String}
    (h : fields.Perm [("name", .str name), ("package", .str package)]) :
    (Value.map fields).IsCore ⟨name, package⟩ := by
  have hname : fields.filter (·.1 ∈ ["name"]) = [("name", .str name)] :=
    List.perm_singleton.mp (h.filter _)
  have hpackage : fields.filter (·.1 ∈ ["package"]) = [("package", .str package)] :=
    List.perm_singleton.mp (h.filter _)
  refine .table (fun field hfield => ?_) (.given hname rfl) (.given hpackage rfl)
  have hin := h.mem_iff.mp hfield
  simp only [List.mem_cons, List.not_mem_nil, or_false] at hin
  rcases hin with rfl | rfl <;> simp

private theorem isCore_iff {v : Value} {c : CoreEntry} : v.IsCore c ↔ v.SpellsCore c := by
  constructor
  · rintro (⟨hknown, hname, hpackage⟩ | ⟨⟨⟩, ⟨⟩⟩)
    · exact .table (perm_of_core hknown hname hpackage)
    · exact .array
  · rintro (hperm | _)
    · exact isCore_of_perm hperm
    · exact .array rfl rfl

/-- Only by position can a core be read that has more in it. -/
private theorem SpellsCore.by_position {v : Value} {c : CoreEntry} (h : v.SpellsCore c)
    (hexceeds : v.exceedsCore) : v.standsByPosition := by
  cases h with
  | table hperm =>
    obtain ⟨field, hfield, hkey⟩ := List.any_eq_true.mp hexceeds
    have hin := hperm.mem_iff.mp hfield
    simp only [List.mem_cons, List.not_mem_nil, or_false] at hin
    refine absurd ?_ (of_decide_eq_true hkey)
    rcases hin with rfl | rfl <;> simp
  | array => rfl

end Value

namespace Manifest

def coreItems (fields : List (String × Value)) : List Value :=
  (fields.filter (·.1 ∈ ["core"])).flatMap fun field =>
    match field.2 with
    | .seq items => items
    | _ => []

private theorem forall₂_coreItems {fields : List (String × Value)} {m : Manifest}
    (h : IsManifest fields m) : List.Forall₂ Value.IsCore (coreItems fields) m.cores := by
  obtain ⟨-, -, hcores⟩ := h
  cases hcores with
  | absent habsent =>
    have hnone : fields.filter (·.1 ∈ ["core"]) = [] := by simpa using habsent
    rw [coreItems, hnone]
    exact .nil
  | given hfilter hstates =>
    obtain ⟨items, rfl, hitems⟩ := hstates
    rw [coreItems, hfilter, List.flatMap_singleton]
    exact hitems

private theorem any_coreItems {text : String} {p : Value → Bool} :
    (Toml.read? text).any (fun fields => (coreItems fields).any p) = true ↔
      ∃ fields, Toml.read? text = some fields ∧ ∃ v ∈ coreItems fields, p v := by
  simp only [Option.any_eq_true, List.any_eq_true]

/-- A core is read from an item just when that spells it. One that gives more than a name and a
package makes its document no manifest, unless it is an array that begins with these two. Where a
document is a manifest, its cores are the items of its array of cores one by one, and nothing of
them is left over but what follows the package in an array. -/
theorem core_surplus_rejected (fields : List (String × Value)) :
    (∀ v c, CoreEntry.ofValue v = .ok c ↔ v.SpellsCore c) ∧
    (∀ v ∈ coreItems fields, v.exceedsCore → ¬ v.standsByPosition →
      ∃ e, ofFields fields = .error e ∧
        ∀ text, Toml.read? text = some fields → parse text = .error (.notManifest e)) ∧
    ∀ m, ofFields fields = .ok m → List.Forall₂ Value.SpellsCore (coreItems fields) m.cores := by
  have hspelled (m : Manifest) (hm : ofFields fields = .ok m) :
      List.Forall₂ Value.SpellsCore (coreItems fields) m.cores :=
    (forall₂_coreItems (ofFields_eq_ok.mp hm)).imp fun _ _ => Value.isCore_iff.mp
  refine ⟨fun v c => CoreEntry.ofValue_eq_ok.trans Value.isCore_iff, ?_, hspelled⟩
  intro v hv hexceeds hform
  cases hfields : ofFields fields with
  | error e =>
    refine ⟨e, rfl, fun text hread => ?_⟩
    simp only [parse, hread, hfields, Except.mapError]
  | ok m =>
    obtain ⟨i, hi, rfl⟩ := List.getElem_of_mem hv
    have hcore := (hspelled m hfields).get hi ((hspelled m hfields).length_eq ▸ hi)
    exact absurd (hcore.by_position hexceeds) hform

private def requiringCore : String :=
  "[[core]]\nname = \"LibCube\"\npackage = \"org.cubeengine.libcube\"\n" ++
    "dependencies = [\x7b id = \"chat\" \x7d]\n"

/-- A core as a table that has a list of dependencies, and one that has its package before its
name. -/
theorem core_surplus_rejected_dependencies :
    (∃ fields, Toml.read? requiringCore = some fields ∧
      ∃ v ∈ coreItems fields, v.exceedsCore && !v.standsByPosition) ∧
    (∃ e, parse requiringCore = .error (.notManifest e)) ∧
    List.Forall₂ Value.SpellsCore
      [.map [("package", .str "org.cubeengine.libcube"), ("name", .str "LibCube")]]
      [⟨"LibCube", "org.cubeengine.libcube"⟩] := by
  have hsurplus := any_coreItems.mp
    (by decide +kernel : (Toml.read? requiringCore).any (fun fields =>
      (coreItems fields).any fun v => v.exceedsCore && !v.standsByPosition) = true)
  obtain ⟨fields, hread, v, hv, hboth⟩ := hsurplus
  obtain ⟨hexceeds, hform⟩ := Bool.and_eq_true_iff.mp hboth
  obtain ⟨e, -, herror⟩ := (core_surplus_rejected fields).2.1 v hv hexceeds (by simpa using hform)
  let plain : List (String × Value) := [("core", .seq
    [.map [("package", .str "org.cubeengine.libcube"), ("name", .str "LibCube")]])]
  exact ⟨⟨fields, hread, v, hv, hboth⟩, ⟨e, herror _ hread⟩,
    (core_surplus_rejected plain).2.2 ⟨[], [⟨"LibCube", "org.cubeengine.libcube"⟩]⟩ rfl⟩

/-- A core as an array loses the dependencies that follow its package. -/
theorem core_surplus_dropped :
    let text := "core = [[\"LibCube\", \"org.cubeengine.libcube\", [\x7b id = \"chat\" \x7d]]]\n"
    (∃ fields, Toml.read? text = some fields ∧ ∃ v ∈ coreItems fields, v.exceedsCore) ∧
      parse text = .ok ⟨[], [⟨"LibCube", "org.cubeengine.libcube"⟩]⟩ := by
  intro text
  exact ⟨any_coreItems.mp (by decide +kernel), toOption_eq_some.mp (by decide +kernel)⟩

end Manifest

end PluginWrapper
