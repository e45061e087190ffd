import PluginWrapper.OptionTable
import PluginWrapper.Proofs.Association

/-! Options by what a table holds under their key. In a table that is filled from a list the last of
several entries with one key counts. -/
namespace PluginWrapper.OptionTable

section Resolve

variable {options options' : OptionTable} {key : String}

theorem get?_insert_of_ne {k : String} {value : String} (h : key ≠ k) :
    (options.insert key value).get? k = options.get? k := by
  rw [get?_insert, if_neg h]

theorem resolve_eq (t : OptionTable) (key fallback : String) : t.resolve key fallback =
    if key = OptionKey.revision ∧ t.get? key = some revisionPlaceholder then unknown
    else (t.get? key).getD fallback := by
  rw [resolve]
  cases t.get? key <;> simp

theorem resolve_of_get?_none (h : options.get? key = none) (fallback : String) :
    options.resolve key fallback = fallback := by
  rw [resolve, h]

theorem resolve_congr (h : options.get? key = options'.get? key) (fallback : String) :
    options.resolve key fallback = options'.resolve key fallback := by
  rw [resolve, resolve, h]

theorem resolve_insert_self (options : OptionTable) (key value fallback : String) :
    (options.insert key value).resolve key fallback =
      if key = OptionKey.revision ∧ value = revisionPlaceholder then unknown else value := by
  rw [resolve, get?_insert, if_pos rfl]

theorem resolve_insert_verbatim (h : key ≠ OptionKey.revision) (options : OptionTable)
    (value fallback : String) : (options.insert key value).resolve key fallback = value := by
  rw [resolve_insert_self, if_neg fun hboth => h hboth.1]

/-- What holds of all values in a table, of the fallback and of `unknown` holds of what is read. -/
theorem resolve_of_forall {P : String → Prop}
    (hvalues : ∀ k value, options.get? k = some value → P value) (hunknown : P unknown)
    {fallback : String} (hfallback : P fallback) (key : String) :
    P (options.resolve key fallback) := by
  rw [resolve]
  cases hvalue : options.get? key with
  | none => exact hfallback
  | some value =>
    dsimp only
    split
    · exact hunknown
    · exact hvalues key value hvalue

end Resolve

theorem get?_insertAll (t : OptionTable) (entries : List (String × String)) (k : String) :
    (t.insertAll entries).get? k = (entries.reverse.lookup k).or (t.get? k) := by
  induction entries generalizing t with
  | nil => rfl
  | cons entry rest ih =>
    obtain ⟨key, value⟩ := entry
    have hfirst : (t.insert key value).get? k = ([(key, value)].lookup k).or (t.get? k) := by
      rw [get?_insert, lookup_cons_eq_ite]
      by_cases h : key = k
      · simp [h]
      · simp [h, Ne.symm h]
    calc (t.insertAll ((key, value) :: rest)).get? k
        = (rest.reverse.lookup k).or ((t.insert key value).get? k) := ih _
      _ = (((key, value) :: rest).reverse.lookup k).or (t.get? k) := by
        rw [hfirst, List.reverse_cons, List.lookup_append, Option.or_assoc]

theorem get?_ofList {entries : List (String × String)} (h : (entries.map Prod.fst).Nodup)
    (k : String) : (ofList entries).get? k = entries.lookup k := by
  rw [ofList, get?_insertAll, get?_empty, Option.or_none, lookup_reverse h]

variable {t : OptionTable} {key : String}

theorem isEmpty_iff : t.isEmpty = true ↔ ∀ key, t.get? key = none := by
  rw [isEmpty, Std.ExtTreeMap.isEmpty_iff]
  constructor
  · intro h key
    rw [get?, h, Std.ExtTreeMap.getElem?_empty]
  · intro h
    exact Std.ExtTreeMap.ext_getElem? fun k => (h k).trans Std.ExtTreeMap.getElem?_empty.symm

theorem mem_unsupportedKeys :
    key ∈ t.unsupportedKeys ↔ (t.get? key).isSome ∧ key ∉ OptionKey.supported := by
  have hkeys : key ∈ t.keys ↔ (t.get? key).isSome := by
    rw [keys, Std.ExtTreeMap.mem_keys, get?, Std.ExtTreeMap.isSome_getElem?_iff_mem]
  rw [unsupportedKeys, List.mem_filter, hkeys]
  simp

theorem pairwise_unsupportedKeys (t : OptionTable) : t.unsupportedKeys.Pairwise (· < ·) := by
  have hkeys : t.keys.Pairwise fun a b => compare a b = .lt := Std.ExtTreeMap.ordered_keys
  exact (hkeys.imp fun h => compareOfLessAndEq_eq_lt.mp h).filter _

end PluginWrapper.OptionTable
