import Mathlib.Tactic.MkIffOfInductiveProp
import PluginWrapper.Dependency
import PluginWrapper.Proofs.Value.Reading

/-! The trees that state a dependency: a table, or by position an array. The table can have fields
that no dependency knows. -/
namespace PluginWrapper

/-- What the tree leaves off is the empty version, and false. -/
inductive Value.IsDependency : Value → Dependency → Prop where
  | table {id : String} {version : Option String} {optional : Option Bool}
      {fields : List (String × Value)} :
    FieldStates ["id", "value"] IsText fields (some id) →
    FieldStates ["version"] IsText fields version →
    FieldStates ["optional"] IsTruth fields optional →
    IsDependency (.map fields) ⟨id, version.getD "", optional.getD false⟩
  | single {v : Value} {id : String} : v.IsText id → IsDependency (.seq [v]) ⟨id, "", false⟩
  | pair {v w : Value} {id version : String} : v.IsText id → w.IsText version →
    IsDependency (.seq [v, w]) ⟨id, version, false⟩
  | array {v w x : Value} {rest : List Value} {id version : String} {optional : Bool} :
    v.IsText id → w.IsText version → x.IsTruth optional →
    IsDependency (.seq (v :: w :: x :: rest)) ⟨id, version, optional⟩

namespace Dependency

/-- The fields lead from one draft to the other. -/
@[mk_iff]
structure Draft.Adds (d : Draft) (fields : List (String × Value)) (d' : Draft) : Prop where
  id : FieldAdds ["id", "value"] Value.IsText d.id fields d'.id
  version : FieldAdds ["version"] Value.IsText d.version fields d'.version
  optional : FieldAdds ["optional"] Value.IsTruth d.optional fields d'.optional

private theorem Draft.adds_cons (d : Draft) (field : String × Value)
    (fields : List (String × Value)) (d' : Draft) : d.Adds (field :: fields) d' ↔
      ∃ d₁, d.read field.1 field.2 = .ok d₁ ∧ d₁.Adds fields d' := by
  obtain ⟨key, v⟩ := field
  simp only [Draft.read]
  -- Each key that is read adds to one field, and leaves what the others can add as it is.
  split_ifs with hid hversion hoptional
  · rw [exists_once]
    obtain rfl | rfl := hid <;>
    · simp (disch := decide) only [adds_iff, fieldAdds_cons_of_mem, fieldAdds_cons_of_not_mem,
        Value.asString_eq_ok]
      grind
  · subst hversion
    rw [exists_once]
    simp (disch := decide) only [adds_iff, fieldAdds_cons_of_mem, fieldAdds_cons_of_not_mem,
      Value.asString_eq_ok]
    grind
  · subst hoptional
    rw [exists_once]
    simp (disch := decide) only [adds_iff, fieldAdds_cons_of_mem, fieldAdds_cons_of_not_mem,
      Value.asBool_eq_ok]
    grind
  · simp [adds_iff, fieldAdds_cons_of_not_mem, hid, hversion, hoptional, pure_eq_ok]

private theorem Draft.foldlM_read_eq_ok (fields : List (String × Value)) (d d' : Draft) :
    fields.foldlM (fun d field => d.read field.1 field.2) d = .ok d' ↔ d.Adds fields d' := by
  refine foldlM_eq_ok (fun d d' => ?_) adds_cons fields d d'
  cases d
  cases d'
  simp [adds_iff, fieldAdds_nil]

theorem ofFields_eq_ok {fields : List (String × Value)} {x : Dependency} :
    ofFields fields = .ok x ↔ (Value.map fields).IsDependency x := by
  simp only [ofFields, bind_eq_ok, Draft.foldlM_read_eq_ok]
  constructor
  · rintro ⟨⟨o, version, optional⟩, ⟨hid, hversion, hoptional⟩, hfinish⟩
    cases o with
    | none => cases hfinish
    | some id =>
      cases hfinish
      exact .table hid hversion hoptional
  · rintro ⟨hid, hversion, hoptional⟩
    exact ⟨⟨_, _, _⟩, ⟨hid, hversion, hoptional⟩, rfl⟩

theorem ofItems_eq_ok {items : List Value} {x : Dependency} :
    ofItems items = .ok x ↔ (Value.seq items).IsDependency x := by
  constructor
  · intro h
    match items with
    | [] => cases h
    | [v] =>
      simp only [ofItems, bind_eq_ok, Value.asString_eq_ok, pure_eq_ok] at h
      obtain ⟨id, hid, ⟨⟩⟩ := h
      exact .single hid
    | [v, w] =>
      simp only [ofItems, bind_eq_ok, Value.asString_eq_ok, pure_eq_ok] at h
      obtain ⟨id, hid, version, hversion, ⟨⟩⟩ := h
      exact .pair hid hversion
    | v :: w :: y :: rest =>
      simp only [ofItems, bind_eq_ok, Value.asString_eq_ok, Value.asBool_eq_ok, pure_eq_ok] at h
      obtain ⟨id, hid, version, hversion, optional, hoptional, ⟨⟩⟩ := h
      exact .array hid hversion hoptional
  · rintro (_ | ⟨⟨⟩⟩ | ⟨⟨⟩, ⟨⟩⟩ | ⟨⟨⟩, ⟨⟩, ⟨⟩⟩) <;> rfl

theorem ofValue_eq_ok {v : Value} {x : Dependency} : ofValue v = .ok x ↔ v.IsDependency x := by
  cases v with
  | map fields => exact ofFields_eq_ok
  | seq items => exact ofItems_eq_ok
  | null | bool | int | float | str => exact ⟨nofun, nofun⟩

end Dependency

end PluginWrapper
