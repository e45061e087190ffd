import Mathlib.Tactic.MkIffOfInductiveProp
import PluginWrapper.Manifest
import PluginWrapper.Proofs.Dependency

/-! The grammar of manifests. A record stands as a table, or by position as an array. Tables of
declarations have no unknown fields; tables of dependencies can have any. -/
namespace PluginWrapper

inductive Value.IsModule : Value → ModuleEntry → Prop where
  | table {name package : String} {dependencies : Option (List Dependency)}
      {fields : List (String × Value)} :
    KeysAmong ["name", "package", "dependencies"] fields →
    FieldStates ["name"] IsText fields (some name) →
    FieldStates ["package"] IsText fields (some package) →
    FieldStates ["dependencies"] (IsArrayOf IsDependency) fields dependencies →
    IsModule (.map fields) ⟨name, package, dependencies.getD []⟩
  | pair {v w : Value} {name package : String} : v.IsText name → w.IsText package →
    IsModule (.seq [v, w]) ⟨name, package, []⟩
  | array {v w x : Value} {rest : List Value} {name package : String}
      {dependencies : List Dependency} :
    v.IsText name → w.IsText package → x.IsArrayOf IsDependency dependencies →
    IsModule (.seq (v :: w :: x :: rest)) ⟨name, package, dependencies⟩

inductive Value.IsCore : Value → CoreEntry → Prop where
  | table {name package : String} {fields : List (String × Value)} :
    KeysAmong ["name", "package"] fields →
    FieldStates ["name"] IsText fields (some name) →
    FieldStates ["package"] IsText fields (some package) →
    IsCore (.map fields) ⟨name, package⟩
  | array {v w : Value} {rest : List Value} {name package : String} :
    v.IsText name → w.IsText package →
    IsCore (.seq (v :: w :: rest)) ⟨name, package⟩

/-- The fields of a document list the entries of the manifest. -/
inductive IsManifest (fields : List (String × Value)) : Manifest → Prop where
  | table {modules : Option (List ModuleEntry)} {cores : Option (List CoreEntry)} :
    KeysAmong ["module", "core"] fields →
    FieldStates ["module"] (Value.IsArrayOf Value.IsModule) fields modules →
    FieldStates ["core"] (Value.IsArrayOf Value.IsCore) fields cores →
    IsManifest fields ⟨modules.getD [], cores.getD []⟩

namespace ModuleEntry

/-- The fields lead from one draft to the other. -/
@[mk_iff]
structure Draft.Adds (d : Draft) (fields : List (String × Value)) (d' : Draft) : Prop where
  known : KeysAmong ["name", "package", "dependencies"] fields
  name : FieldAdds ["name"] Value.IsText d.name fields d'.name
  package : FieldAdds ["package"] Value.IsText d.package fields d'.package
  dependencies : FieldAdds ["dependencies"] (Value.IsArrayOf Value.IsDependency)
    d.dependencies fields d'.dependencies

private theorem readDependencies_eq_ok {v : Value} {xs : List Dependency} :
    readDependencies v = .ok xs ↔ v.IsArrayOf Value.IsDependency xs :=
  Value.asSequence_mapM_eq_ok fun _ _ => Dependency.ofValue_eq_ok

private theorem Draft.adds_cons (d : Draft) (field : String × Value)
    (fields : List (String × Value)) (d' : Draft) : d.Adds (field :: fields) d' ↔
      ∃ d₁, d.read field.1 field.2 = .ok d₁ ∧ d₁.Adds fields d' := by
  obtain ⟨key, v⟩ := field
  simp only [Draft.read]
  split_ifs with hname hpackage hdependencies
  · subst hname
    rw [exists_once]
    simp (disch := decide) only [adds_iff, keysAmong_cons_of_mem, fieldAdds_cons_of_mem,
      fieldAdds_cons_of_not_mem, Value.asString_eq_ok]
    grind
  · subst hpackage
    rw [exists_once]
    simp (disch := decide) only [adds_iff, keysAmong_cons_of_mem, fieldAdds_cons_of_mem,
      fieldAdds_cons_of_not_mem, Value.asString_eq_ok]
    grind
  · subst hdependencies
    rw [exists_once]
    simp (disch := decide) only [adds_iff, keysAmong_cons_of_mem, fieldAdds_cons_of_mem,
      fieldAdds_cons_of_not_mem, readDependencies_eq_ok]
    grind
  · simp [adds_iff, KeysAmong, hname, hpackage, hdependencies]

private theorem Draft.foldlM_read_eq_ok (fields : List (String × Value)) (d d' : Draft) :
    fields.foldlM (fun d field => d.read field.1 field.2) d = .ok d' ↔ d.Adds fields d' := by
  refine foldlM_eq_ok (fun d d' => ?_) adds_cons fields d d'
  cases d
  cases d'
  simp [adds_iff, KeysAmong, fieldAdds_nil]

theorem ofFields_eq_ok {fields : List (String × Value)} {m : ModuleEntry} :
    ofFields fields = .ok m ↔ (Value.map fields).IsModule m := by
  simp only [ofFields, bind_eq_ok, Draft.foldlM_read_eq_ok]
  constructor
  · rintro ⟨⟨n, p, dependencies⟩, ⟨hknown, hname, hpackage, hdependencies⟩, hfinish⟩
    match n, p with
    | none, _ => cases hfinish
    | some name, none => cases hfinish
    | some name, some package =>
      cases hfinish
      exact .table hknown hname hpackage hdependencies
  · rintro ⟨hknown, hname, hpackage, hdependencies⟩
    exact ⟨⟨_, _, _⟩, ⟨hknown, hname, hpackage, hdependencies⟩, rfl⟩

theorem ofItems_eq_ok {items : List Value} {m : ModuleEntry} :
    ofItems items = .ok m ↔ (Value.seq items).IsModule m := by
  constructor
  · intro h
    match items with
    | [] => cases h
    | [v] =>
      simp only [ofItems, bind_eq_ok] at h
      obtain ⟨_, -, ⟨⟩⟩ := h
    | [v, w] =>
      simp only [ofItems, bind_eq_ok, Value.asString_eq_ok, pure_eq_ok] at h
      obtain ⟨name, hname, package, hpackage, ⟨⟩⟩ := h
      exact .pair hname hpackage
    | v :: w :: x :: rest =>
      simp only [ofItems, bind_eq_ok, Value.asString_eq_ok, readDependencies_eq_ok, pure_eq_ok] at h
      obtain ⟨name, hname, package, hpackage, dependencies, hdependencies, ⟨⟩⟩ := h
      exact .array hname hpackage hdependencies
  · rintro (_ | ⟨⟨⟩, ⟨⟩⟩ | ⟨⟨⟩, ⟨⟩, hdependencies⟩)
    · rfl
    · exact bind_eq_ok.mpr ⟨_, rfl, bind_eq_ok.mpr ⟨_, rfl, bind_eq_ok.mpr
        ⟨_, readDependencies_eq_ok.mpr hdependencies, rfl⟩⟩⟩

theorem ofValue_eq_ok {v : Value} {m : ModuleEntry} : ofValue v = .ok m ↔ v.IsModule m := by
  cases v with
  | map fields => exact ofFields_eq_ok
  | seq items => exact ofItems_eq_ok
  | null | bool | int | float | str => exact ⟨nofun, nofun⟩

end ModuleEntry

namespace CoreEntry

/-- The fields lead from one draft to the other. -/
@[mk_iff]
structure Draft.Adds (d : Draft) (fields : List (String × Value)) (d' : Draft) : Prop where
  known : KeysAmong ["name", "package"] fields
  name : FieldAdds ["name"] Value.IsText d.name fields d'.name
  package : FieldAdds ["package"] Value.IsText d.package fields d'.package

private theorem Draft.adds_cons (d : Draft) (field : String × Value)
    (fields : List (String × Value)) (d' : Draft) : d.Adds (field :: fields) d' ↔
      ∃ d₁, d.read field.1 field.2 = .ok d₁ ∧ d₁.Adds fields d' := by
  obtain ⟨key, v⟩ := field
  simp only [Draft.read]
  split_ifs with hname hpackage
  · subst hname
    rw [exists_once]
    simp (disch := decide) only [adds_iff, keysAmong_cons_of_mem, fieldAdds_cons_of_mem,
      fieldAdds_cons_of_not_mem, Value.asString_eq_ok]
    grind
  · subst hpackage
    rw [exists_once]
    simp (disch := decide) only [adds_iff, keysAmong_cons_of_mem, fieldAdds_cons_of_mem,
      fieldAdds_cons_of_not_mem, Value.asString_eq_ok]
    grind
  · simp [adds_iff, KeysAmong, hname, hpackage]

private theorem Draft.foldlM_read_eq_ok (fields : List (String × Value)) (d d' : Draft) :
    fields.foldlM (fun d field => d.read field.1 field.2) d = .ok d' ↔ d.Adds fields d' := by
  refine foldlM_eq_ok (fun d d' => ?_) adds_cons fields d d'
  cases d
  cases d'
  simp [adds_iff, KeysAmong, fieldAdds_nil]

theorem ofFields_eq_ok {fields : List (String × Value)} {c : CoreEntry} :
    ofFields fields = .ok c ↔ (Value.map fields).IsCore c := by
  simp only [ofFields, bind_eq_ok, Draft.foldlM_read_eq_ok]
  constructor
  · rintro ⟨⟨n, p⟩, ⟨hknown, hname, hpackage⟩, hfinish⟩
    match n, p with
    | none, _ => cases hfinish
    | some name, none => cases hfinish
    | some name, some package =>
      cases hfinish
      exact .table hknown hname hpackage
  · rintro ⟨hknown, hname, hpackage⟩
    exact ⟨⟨_, _⟩, ⟨hknown, hname, hpackage⟩, rfl⟩

theorem ofItems_eq_ok {items : List Value} {c : CoreEntry} :
    ofItems items = .ok c ↔ (Value.seq items).IsCore c := by
  constructor
  · intro h
    match items with
    | [] => cases h
    | [v] =>
      simp only [ofItems, bind_eq_ok] at h
      obtain ⟨_, -, ⟨⟩⟩ := h
    | v :: w :: rest =>
      simp only [ofItems, bind_eq_ok, Value.asString_eq_ok, pure_eq_ok] at h
      obtain ⟨name, hname, package, hpackage, ⟨⟩⟩ := h
      exact .array hname hpackage
  · rintro (_ | ⟨⟨⟩, ⟨⟩⟩)
    rfl

theorem ofValue_eq_ok {v : Value} {c : CoreEntry} : ofValue v = .ok c ↔ v.IsCore c := by
  cases v with
  | map fields => exact ofFields_eq_ok
  | seq items => exact ofItems_eq_ok
  | null | bool | int | float | str => exact ⟨nofun, nofun⟩

end CoreEntry

namespace Manifest

/-- The fields lead from one draft to the other. -/
@[mk_iff]
structure Draft.Adds (d : Draft) (fields : List (String × Value)) (d' : Draft) : Prop where
  known : KeysAmong ["module", "core"] fields
  modules : FieldAdds ["module"] (Value.IsArrayOf Value.IsModule) d.modules fields d'.modules
  cores : FieldAdds ["core"] (Value.IsArrayOf Value.IsCore) d.cores fields d'.cores

private theorem Draft.adds_cons (d : Draft) (field : String × Value)
    (fields : List (String × Value)) (d' : Draft) : d.Adds (field :: fields) d' ↔
      ∃ d₁, d.read field.1 field.2 = .ok d₁ ∧ d₁.Adds fields d' := by
  obtain ⟨key, v⟩ := field
  simp only [Draft.read]
  split_ifs with hmodule hcore
  · subst hmodule
    rw [exists_once]
    simp (disch := decide) only [adds_iff, keysAmong_cons_of_mem, fieldAdds_cons_of_mem,
      fieldAdds_cons_of_not_mem,
      Value.asSequence_mapM_eq_ok fun _ _ => ModuleEntry.ofValue_eq_ok]
    grind
  · subst hcore
    rw [exists_once]
    simp (disch := decide) only [adds_iff, keysAmong_cons_of_mem, fieldAdds_cons_of_mem,
      fieldAdds_cons_of_not_mem,
      Value.asSequence_mapM_eq_ok fun _ _ => CoreEntry.ofValue_eq_ok]
    grind
  · simp [adds_iff, KeysAmong, hmodule, hcore]

private theorem Draft.foldlM_read_eq_ok (fields : List (String × Value)) (d d' : Draft) :
    fields.foldlM (fun d field => d.read field.1 field.2) d = .ok d' ↔ d.Adds fields d' := by
  refine foldlM_eq_ok (fun d d' => ?_) adds_cons fields d d'
  cases d
  cases d'
  simp [adds_iff, KeysAmong, fieldAdds_nil]

theorem ofFields_eq_ok {fields : List (String × Value)} {m : Manifest} :
    ofFields fields = .ok m ↔ IsManifest fields m := by
  simp only [ofFields, bind_eq_ok, Draft.foldlM_read_eq_ok]
  constructor
  · rintro ⟨d, ⟨hknown, hmodules, hcores⟩, ⟨⟩⟩
    exact .table hknown hmodules hcores
  · rintro ⟨hknown, hmodules, hcores⟩
    exact ⟨⟨_, _⟩, ⟨hknown, hmodules, hcores⟩, rfl⟩

theorem parse_eq_ok {text : String} {m : Manifest} :
    parse text = .ok m ↔ ∃ fields, Toml.read? text = some fields ∧ IsManifest fields m := by
  simp only [← ofFields_eq_ok]
  cases hread : Toml.read? text with
  | none => simp [parse, hread]
  | some fields => simp [parse, hread, mapError_eq_ok]

/-- A text is a manifest just when it is a document within the grammar. Its declarations are the
modules in document order, and after them the cores. -/
theorem parse_accepts_grammar (text : String) :
    ((∃ m, parse text = .ok m) ↔
      ∃ fields, Toml.read? text = some fields ∧ ∃ m, IsManifest fields m) ∧
    ∀ ds, (∃ m, parse text = .ok m ∧ m.declarations = ds) ↔
      ∃ fields modules cores, Toml.read? text = some fields ∧
        IsManifest fields ⟨modules, cores⟩ ∧
        ds = modules.map (fun e => ⟨e.name, e.package, .module, e.dependencies⟩) ++
          cores.map (fun e => ⟨e.name, e.package, .core, []⟩) := by
  simp only [parse_eq_ok]
  constructor
  · exact ⟨fun ⟨m, fields, hread, hm⟩ => ⟨fields, hread, m, hm⟩,
      fun ⟨fields, hread, m, hm⟩ => ⟨m, fields, hread, hm⟩⟩
  · intro ds
    constructor
    · rintro ⟨m, ⟨fields, hread, hm⟩, rfl⟩
      exact ⟨fields, m.modules, m.cores, hread, hm, declarations_eq m⟩
    · rintro ⟨fields, modules, cores, hread, hm, rfl⟩
      exact ⟨⟨modules, cores⟩, ⟨fields, hread, hm⟩, declarations_eq _⟩

-- Entries by position; the cores come last, wherever the document has them.
example : (parse "core = [[\"Lib\", \"org.example\"]]\nmodule = [[\"Travel\", \"org.example\"]]"
    ).toOption.map declarations =
      some [⟨"Travel", "org.example", .module, []⟩, ⟨"Lib", "org.example", .core, []⟩] := by
  decide +kernel

end Manifest

end PluginWrapper
