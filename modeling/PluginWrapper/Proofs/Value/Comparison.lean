import PluginWrapper.Toml

/-! Comparison of document trees. No two trees with doubles in them are found to be the same, since
a double need not be the same as itself. -/
namespace PluginWrapper

namespace Value

mutual

def isSame : Value → Value → Bool
  | .null, .null => true
  | .bool b, .bool b' => b = b'
  | .int n, .int n' => n = n'
  | .str s, .str s' => s = s'
  | .seq items, .seq items' => areSameItems items items'
  | .map fields, .map fields' => areSameFields fields fields'
  | _, _ => false

def areSameItems : List Value → List Value → Bool
  | [], [] => true
  | v :: items, v' :: items' => v.isSame v' && areSameItems items items'
  | _, _ => false

def areSameFields : List (String × Value) → List (String × Value) → Bool
  | [], [] => true
  | (key, v) :: fields, (key', v') :: fields' =>
    decide (key = key') && (v.isSame v' && areSameFields fields fields')
  | _, _ => false

end

mutual

private theorem eq_of_isSame {v v' : Value} (h : v.isSame v' = true) : v = v' := by
  cases v <;> cases v' <;> simp only [isSame, decide_eq_true_eq, Bool.false_eq_true] at h
  case null.null => rfl
  case bool.bool => rw [h]
  case int.int => rw [h]
  case str.str => rw [h]
  case seq.seq => rw [eq_of_areSameItems h]
  case map.map => rw [eq_of_areSameFields h]

private theorem eq_of_areSameItems {items items' : List Value}
    (h : areSameItems items items' = true) : items = items' := by
  cases items <;> cases items' <;>
    simp only [areSameItems, Bool.and_eq_true, Bool.false_eq_true] at h
  case nil.nil => rfl
  case cons.cons => rw [eq_of_isSame h.1, eq_of_areSameItems h.2]

theorem eq_of_areSameFields {fields fields' : List (String × Value)}
    (h : areSameFields fields fields' = true) : fields = fields' := by
  match fields, fields' with
  | [], [] => rfl
  | (key, v) :: fields, (key', v') :: fields' =>
    simp only [areSameFields, Bool.and_eq_true, decide_eq_true_eq] at h
    rw [h.1, eq_of_isSame h.2.1, eq_of_areSameFields h.2.2]

end

end Value

/-- Which fields a document has can be found by evaluation. -/
theorem Toml.read?_eq_some {text : String} {fields : List (String × Value)}
    (h : (read? text).any (Value.areSameFields · fields) = true) : read? text = some fields := by
  cases hread : read? text with
  | none => simp [hread] at h
  | some fields' =>
    rw [hread, Option.any_some] at h
    rw [Value.eq_of_areSameFields h]

end PluginWrapper
