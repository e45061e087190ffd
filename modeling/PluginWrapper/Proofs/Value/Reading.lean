import PluginWrapper.Proofs.Except
import PluginWrapper.Value

/-! What a document tree says, stated apart from the readers, and that the readers answer just
this. -/
namespace PluginWrapper

namespace Value

def IsText (v : Value) (s : String) : Prop := v = .str s

def IsTruth (v : Value) (b : Bool) : Prop := v = .bool b

/-- The tree is an array, and its items state the given things in order. -/
def IsArrayOf {α : Type} (States : Value → α → Prop) (v : Value) (stated : List α) : Prop :=
  ∃ items, v = .seq items ∧ List.Forall₂ States items stated

theorem asString_eq_ok {v : Value} {s : String} : v.asString = .ok s ↔ v.IsText s := by
  cases v <;> simp [asString, IsText]

theorem asBool_eq_ok {v : Value} {b : Bool} : v.asBool = .ok b ↔ v.IsTruth b := by
  cases v <;> simp [asBool, IsTruth]

theorem asSequence_eq_ok {v : Value} {items : List Value} :
    v.asSequence = .ok items ↔ v = .seq items := by
  cases v <;> simp [asSequence]

theorem asSequence_mapM_eq_ok {α : Type} {read : Value → Except ReadError α}
    {States : Value → α → Prop} (h : ∀ v a, read v = .ok a ↔ States v a) {v : Value}
    {stated : List α} : (v.asSequence >>= (·.mapM read)) = .ok stated ↔
      v.IsArrayOf States stated := by
  simp only [bind_eq_ok, asSequence_eq_ok, mapM_eq_ok, h, IsArrayOf]

end Value

theorem once_eq_ok {α : Type} {field : String} {earlier o : Option α}
    {read : Except ReadError α} : once field earlier read = .ok o ↔
      earlier = none ∧ ∃ a, read = .ok a ∧ o = some a := by
  cases earlier with
  | none => simp [once, map_eq_ok]
  | some a => simp [once]

/-- A step that reads one field leads on just when the field was not given before. -/
theorem exists_once {α β : Type} {field : String} {earlier : Option α}
    {read : Except ReadError α} {f : Option α → β} {Then : β → Prop} :
    (∃ b, (do pure (f (← once field earlier read))) = Except.ok b ∧ Then b) ↔
      earlier = none ∧ ∃ a, read = .ok a ∧ Then (f (some a)) := by
  simp only [bind_eq_ok, once_eq_ok, pure_eq_ok]
  constructor
  · rintro ⟨_, ⟨_, ⟨rfl, a, ha, rfl⟩, rfl⟩, hthen⟩
    exact ⟨rfl, a, ha, hthen⟩
  · rintro ⟨rfl, a, ha, hthen⟩
    exact ⟨_, ⟨_, ⟨rfl, a, ha, rfl⟩, rfl⟩, hthen⟩

section Field

def KeysAmong (names : List String) (fields : List (String × Value)) : Prop :=
  ∀ field ∈ fields, field.1 ∈ names

variable {α : Type} {names : List String} {States : Value → α → Prop}
  {fields : List (String × Value)} {key : String} {v : Value} {before after : Option α}

/-- What the fields of a table state under `names`, which are names of one field: nothing, or one
thing stated once. -/
inductive FieldStates (names : List String) (States : Value → α → Prop)
    (fields : List (String × Value)) : Option α → Prop where
  | absent : (∀ field ∈ fields, field.1 ∉ names) → FieldStates names States fields none
  | given {key : String} {v : Value} {a : α} :
    fields.filter (·.1 ∈ names) = [(key, v)] → States v a →
      FieldStates names States fields (some a)

theorem FieldStates.filter_eq {a : α} (h : FieldStates [key] States fields (some a)) :
    ∃ v, fields.filter (·.1 ∈ [key]) = [(key, v)] ∧ States v a := by
  cases h with
  | @given found v _ hfilter hstates =>
    have hin : (found, v) ∈ fields.filter (·.1 ∈ [key]) := hfilter ▸ List.mem_singleton_self _
    obtain rfl : found = key := by simpa using (List.mem_filter.mp hin).2
    exact ⟨v, hfilter, hstates⟩

theorem FieldStates.perm {fields' : List (String × Value)} {o : Option α}
    (h : FieldStates names States fields o) (hperm : fields.Perm fields') :
    FieldStates names States fields' o := by
  cases h with
  | absent habsent => exact .absent fun field hfield => habsent field (hperm.mem_iff.mpr hfield)
  | given hfilter hstates =>
    have hgiven := hperm.filter (·.1 ∈ names)
    rw [hfilter] at hgiven
    exact .given (List.singleton_perm.mp hgiven).symm hstates

/-- The fields add to what is known: they state what is not known yet, and nothing else. -/
def FieldAdds (names : List String) (States : Value → α → Prop) (before : Option α)
    (fields : List (String × Value)) (after : Option α) : Prop :=
  match before with
  | none => FieldStates names States fields after
  | some a => after = some a ∧ ∀ field ∈ fields, field.1 ∉ names

theorem keysAmong_cons_of_mem (h : key ∈ names) :
    KeysAmong names ((key, v) :: fields) ↔ KeysAmong names fields := by
  simp [KeysAmong, h]

theorem fieldAdds_nil : FieldAdds names States before [] after ↔ before = after := by
  cases before with
  | none =>
    constructor
    · rintro (- | ⟨hfilter, -⟩)
      · rfl
      · cases hfilter
    · rintro rfl
      exact .absent (by simp)
  | some a => simp [FieldAdds, eq_comm]

theorem fieldAdds_cons_of_not_mem (h : key ∉ names) :
    FieldAdds names States before ((key, v) :: fields) after ↔
      FieldAdds names States before fields after := by
  have hfilter : ((key, v) :: fields).filter (·.1 ∈ names) = fields.filter (·.1 ∈ names) := by
    simp [h]
  cases before with
  | none =>
    constructor
    · rintro (habsent | ⟨hgiven, hstates⟩)
      · exact .absent fun field hfield => habsent field (List.mem_cons_of_mem _ hfield)
      · exact .given (hfilter ▸ hgiven) hstates
    · rintro (habsent | ⟨hgiven, hstates⟩)
      · exact .absent (List.forall_mem_cons.mpr ⟨h, habsent⟩)
      · exact .given (hfilter.trans hgiven) hstates
  | some a => simp [FieldAdds, h]

theorem fieldAdds_cons_of_mem (h : key ∈ names) :
    FieldAdds names States before ((key, v) :: fields) after ↔
      before = none ∧ ∃ a, States v a ∧ FieldAdds names States (some a) fields after := by
  have hfilter : ((key, v) :: fields).filter (·.1 ∈ names) =
      (key, v) :: fields.filter (·.1 ∈ names) := by
    simp [h]
  have hnil : fields.filter (·.1 ∈ names) = [] ↔ ∀ field ∈ fields, field.1 ∉ names := by
    simp [List.filter_eq_nil_iff]
  cases before with
  | none =>
    constructor
    · rintro (habsent | ⟨hgiven, hstates⟩)
      · exact absurd h (habsent _ List.mem_cons_self)
      · obtain ⟨heq, hrest⟩ := List.cons.inj (hfilter.symm.trans hgiven)
        obtain ⟨rfl, rfl⟩ := Prod.mk.inj heq
        exact ⟨rfl, _, hstates, rfl, hnil.mp hrest⟩
    · rintro ⟨-, a, hstates, rfl, hrest⟩
      exact .given (by rw [hfilter, hnil.mpr hrest]) hstates
  | some a => simp [FieldAdds, h]

end Field

end PluginWrapper
