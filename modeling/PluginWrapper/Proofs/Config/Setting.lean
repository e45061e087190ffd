import Mathlib.Data.String.Basic
import PluginWrapper.Config.Setting
import PluginWrapper.Proofs.Association

/-! Tables of settings by what they hold under each key, and how tables laid over each other look:
every key is decided by the upper table that has it. -/
namespace PluginWrapper.Setting

def Sorted (entries : List (String × Setting)) : Prop := (entries.map Prod.fst).Pairwise (· < ·)

variable {entries below : List (String × Setting)} {key : String}

theorem Sorted.nodup (h : Sorted entries) : (entries.map Prod.fst).Nodup :=
  h.imp ne_of_lt

private theorem mem_keys_change (key : String) (f : Option Setting → Setting)
    (entries : List (String × Setting)) (k : String) :
    k ∈ (change key f entries).map Prod.fst ↔ k = key ∨ k ∈ entries.map Prod.fst := by
  induction entries with
  | nil => simp [change]
  | cons entry rest ih =>
    obtain ⟨first, v⟩ := entry
    rw [change]
    split_ifs with hfirst hlt
    · simp [hfirst]
    · simp
    · simp only [List.map_cons, List.mem_cons, ih, or_left_comm]

private theorem Sorted.change (h : Sorted entries) (key : String) (f : Option Setting → Setting) :
    Sorted (change key f entries) := by
  induction entries with
  | nil => simp [Sorted, Setting.change]
  | cons entry rest ih =>
    obtain ⟨first, v⟩ := entry
    obtain ⟨hfirst, hrest⟩ := List.pairwise_cons.mp h
    rw [Setting.change]
    split_ifs with heq hlt
    · exact h
    · refine List.pairwise_cons.mpr ⟨fun k hk => ?_, h⟩
      obtain rfl | hk := List.mem_cons.mp hk
      · exact hlt
      · exact hlt.trans (hfirst k hk)
    · refine List.pairwise_cons.mpr ⟨fun k hk => ?_, ih hrest⟩
      obtain rfl | hk := (mem_keys_change key f rest k).mp hk
      · exact lt_of_le_of_ne (not_lt.mp hlt) heq
      · exact hfirst k hk

private theorem lookup_change (h : Sorted entries) (key : String) (f : Option Setting → Setting)
    (k : String) : (change key f entries).lookup k =
      if k = key then some (f (entries.lookup key)) else entries.lookup k := by
  induction entries with
  | nil => simp [change, lookup_cons_eq_ite]
  | cons entry rest ih =>
    obtain ⟨first, v⟩ := entry
    obtain ⟨hfirst, hrest⟩ := List.pairwise_cons.mp h
    rw [change]
    by_cases heq : first = key
    · subst heq
      simp only [if_true, lookup_cons_eq_ite]
      split_ifs <;> rfl
    by_cases hlt : key < first
    · -- All keys come after the new one, which is not among them.
      have hnone : ((first, v) :: rest).lookup key = none := by
        refine lookup_eq_none_iff_keys.mpr fun hmem => ?_
        obtain rfl | hmem := List.mem_cons.mp hmem
        · exact heq rfl
        · exact lt_asymm hlt (hfirst key hmem)
      rw [if_neg heq, if_pos hlt, hnone, lookup_cons_eq_ite]
    · rw [if_neg heq, if_neg hlt, lookup_cons_eq_ite, ih hrest]
      by_cases hk : k = key
      · simp [hk, lookup_cons_eq_ite, Ne.symm heq]
      · simp [hk, lookup_cons_eq_ite]

theorem sorted_ofFields (o : Origin) (fields : List (String × Value)) :
    Sorted (ofFields o fields) := by
  induction fields with
  | nil => simp [Sorted, ofFields]
  | cons field rest ih => exact ih.change _ _

theorem lookup_ofFields (o : Origin) (fields : List (String × Value)) (k : String) :
    (ofFields o fields).lookup k = (fields.lookup k).map (ofValue o) := by
  induction fields with
  | nil => rfl
  | cons field rest ih =>
    obtain ⟨key, v⟩ := field
    rw [ofFields, lookup_change (sorted_ofFields o rest), lookup_cons_eq_ite, ih]
    split_ifs <;> rfl

/-- A table of a document that is not set by the key for values stays a table. -/
private theorem ofValue_map {o : Origin} {fields : List (String × Value)}
    (h : valueKey ∉ fields.map Prod.fst) :
    ofValue o (.map fields) = .table o (ofFields o fields) := by
  have hnone : (ofFields o fields).lookup valueKey = none := by
    rw [lookup_ofFields, lookup_eq_none_iff_keys.mpr h]
    rfl
  rw [ofValue, hnone]
  rfl

/-- A field that holds a table makes one, and a field that is left off makes nothing. -/
theorem lookup_ofFields_table {fields inner : List (String × Value)}
    (h : (fields.lookup key).getD (.map []) = .map inner)
    (hvalue : valueKey ∉ inner.map Prod.fst) (o : Origin) :
    ((ofFields o fields).lookup key = none ∧ inner = []) ∨
      (ofFields o fields).lookup key = some (.table o (ofFields o inner)) := by
  rw [lookup_ofFields]
  cases hfield : fields.lookup key with
  | none =>
    rw [hfield] at h
    exact .inl ⟨rfl, (Value.map.inj h).symm⟩
  | some v =>
    rw [hfield] at h
    obtain rfl : v = .map inner := h
    exact .inr (congrArg some (ofValue_map hvalue))

/-- What stands under a key once a setting is laid over what stood there. -/
def atop (earlier : Option Setting) (later : Setting) : Setting :=
  match earlier with
  | none => later
  | some e => overlay e later

private theorem overlayEntries_cons (below : List (String × Setting)) (key : String) (v : Setting)
    (rest : List (String × Setting)) : overlayEntries below ((key, v) :: rest) =
      overlayEntries (change key (atop · v) below) rest := by
  rw [overlayEntries]
  rfl

theorem Sorted.overlayEntries (h : Sorted below) (entries : List (String × Setting)) :
    Sorted (overlayEntries below entries) := by
  induction entries generalizing below with
  | nil => rwa [Setting.overlayEntries]
  | cons entry rest ih =>
    rw [overlayEntries_cons]
    exact ih (h.change _ _)

theorem lookup_overlayEntries (h : Sorted below) (hentries : (entries.map Prod.fst).Nodup)
    (k : String) : (overlayEntries below entries).lookup k =
      match entries.lookup k with
      | none => below.lookup k
      | some later => some (atop (below.lookup k) later) := by
  induction entries generalizing below with
  | nil => rw [overlayEntries]; rfl
  | cons entry rest ih =>
    obtain ⟨key, v⟩ := entry
    obtain ⟨hkey, hrest⟩ := List.nodup_cons.mp hentries
    rw [overlayEntries_cons, ih (h.change _ _) hrest, lookup_cons_eq_ite, lookup_change h]
    by_cases hk : k = key
    · rw [hk, lookup_eq_none_iff_keys.mpr hkey]
      simp
    · simp [hk]

/-- A scalar replaces what stood in its place. -/
theorem lookup_overlayEntries_scalar (h : Sorted below)
    (hentries : (entries.map Prod.fst).Nodup) {k : String} {o : Origin} {v : Option Scalar}
    (hk : entries.lookup k = v.map (.scalar o)) :
    (overlayEntries below entries).lookup k = (v.map (.scalar o)).or (below.lookup k) := by
  rw [lookup_overlayEntries h hentries, hk]
  cases v with
  | none => rfl
  | some v => cases below.lookup k <;> simp [atop, overlay]

end PluginWrapper.Setting
