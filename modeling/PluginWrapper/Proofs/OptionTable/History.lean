import PluginWrapper.Proofs.Bytes.Order
import PluginWrapper.Proofs.OptionTable

/-! Tables of options to which requests come one after the other. All that is answered follows from
the values at the start and from what was written since. -/
namespace PluginWrapper.OptionTable

/-- What can be asked of a table or done to it. An insertion asks for the value that it replaces. -/
inductive Request where
  | insert (key value : String)
  | put (key value : String)
  | get (key : String)
  | isEmpty
  | unsupportedKeys
  | resolve (key fallback : String)
  | malformed

/-- What comes back for a request. -/
inductive Answer where
  | value (v : Option String)
  | truth (b : Bool)
  | names (keys : List String)
  | text (s : String)
  | done
  | refused

def perform (t : OptionTable) : Request → Answer × OptionTable
  | .insert key value =>
    let (previous, t) := t.replace key value
    (.value previous, t)
  | .put key value => (.done, t.insert key value)
  | .get key => (.value (t.get? key), t)
  | .isEmpty => (.truth t.isEmpty, t)
  | .unsupportedKeys => (.names t.unsupportedKeys, t)
  | .resolve key fallback => (.text (t.resolve key fallback), t)
  | .malformed => (.refused, t)

def performAll (t : OptionTable) : List Request → List Answer × OptionTable
  | [] => ([], t)
  | r :: rest =>
    let (answer, t) := t.perform r
    let (answers, t) := t.performAll rest
    (answer :: answers, t)

def Request.entry? : Request → Option (String × String)
  | .insert key value => some (key, value)
  | .put key value => some (key, value)
  | .get _ | .isEmpty | .unsupportedKeys | .resolve _ _ | .malformed => none

/-- What was written last under the key, or else its value at the start. -/
def valueAfter (start : OptionTable) (requests : List Request) (key : String) : Option String :=
  ((requests.filterMap Request.entry?).reverse.lookup key).or (start.get? key)

def understoodKeys : List String :=
  ["version", "id", "name", "description", "team", "url", "sourceversion", "libcube.version",
    "sponge.version"].map ("cubeengine.module." ++ ·)

/-- How a request is answered that comes after the others. -/
inductive Answers (start : OptionTable) (before : List Request) : Request → Answer → Prop where
  | insert {key value : String} :
    Answers start before (.insert key value) (.value (start.valueAfter before key))
  | put {key value : String} : Answers start before (.put key value) .done
  | get {key : String} : Answers start before (.get key) (.value (start.valueAfter before key))
  | isEmpty {b : Bool} :
    (b = true ↔ (∀ key, start.get? key = none) ∧ ∀ r ∈ before, r.entry? = none) →
    Answers start before .isEmpty (.truth b)
  | unsupportedKeys {keys : List String} :
    (keys.map Bytes.ofString).Pairwise (· < ·) →
    (∀ key, key ∈ keys ↔ (start.valueAfter before key).isSome ∧ key ∉ understoodKeys) →
    Answers start before .unsupportedKeys (.names keys)
  | unfilled {fallback : String} :
    start.valueAfter before "cubeengine.module.sourceversion" =
      some "$\x7bgithead.branch\x7d-$\x7bgithead.commit\x7d" →
    Answers start before (.resolve "cubeengine.module.sourceversion" fallback) (.text "unknown")
  | resolve {key fallback : String} :
    ¬ (key = "cubeengine.module.sourceversion" ∧
      start.valueAfter before key = some "$\x7bgithead.branch\x7d-$\x7bgithead.commit\x7d") →
    Answers start before (.resolve key fallback)
      (.text ((start.valueAfter before key).getD fallback))
  | malformed : Answers start before .malformed .refused

variable {t start : OptionTable} {before : List Request}

private theorem snd_perform (t : OptionTable) (r : Request) :
    (t.perform r).2 = t.insertAll r.entry?.toList := by
  cases r <;> rfl

private theorem snd_performAll (t : OptionTable) (requests : List Request) :
    (t.performAll requests).2 = t.insertAll (requests.filterMap Request.entry?) := by
  induction requests generalizing t with
  | nil => rfl
  | cons r rest ih =>
    have hstep : (t.performAll (r :: rest)).2 = ((t.perform r).2.performAll rest).2 := rfl
    rw [hstep, ih, snd_perform]
    cases hentry : r.entry? <;> simp [insertAll, hentry]

theorem get?_performAll (t : OptionTable) (requests : List Request) (key : String) :
    (t.performAll requests).2.get? key = t.valueAfter requests key := by
  rw [snd_performAll, get?_insertAll, valueAfter]

theorem length_performAll (t : OptionTable) (requests : List Request) :
    (t.performAll requests).1.length = requests.length := by
  induction requests generalizing t with
  | nil => rfl
  | cons r rest ih => exact congrArg Nat.succ (ih (t.perform r).2)

private theorem fst_performAll_append (t : OptionTable) (before after : List Request) :
    (t.performAll (before ++ after)).1 =
      (t.performAll before).1 ++ ((t.performAll before).2.performAll after).1 := by
  induction before generalizing t with
  | nil => rfl
  | cons r before ih => exact congrArg ((t.perform r).1 :: ·) (ih (t.perform r).2)

private theorem valueAfter_eq_none : (∀ key, start.valueAfter before key = none) ↔
    (∀ key, start.get? key = none) ∧ ∀ r ∈ before, r.entry? = none := by
  have hentries : (∀ key, (before.filterMap Request.entry?).reverse.lookup key = none) ↔
      ∀ r ∈ before, r.entry? = none := by
    simp only [lookup_eq_none_iff_keys, ← List.eq_nil_iff_forall_not_mem, List.map_eq_nil_iff,
      List.reverse_eq_nil_iff, List.filterMap_eq_nil_iff]
  simp only [valueAfter, Option.or_eq_none_iff, forall_and, hentries]
  exact And.comm

/-- A table that holds what the requests before have left answers as they demand. -/
theorem perform_answers (h : ∀ key, t.get? key = start.valueAfter before key) (r : Request) :
    Answers start before r (t.perform r).1 := by
  cases r with
  | insert key value =>
    have hanswer : (t.perform (.insert key value)).1 = .value (t.get? key) := rfl
    rw [hanswer, h]
    exact .insert
  | put => exact .put
  | get key =>
    have hanswer : (t.perform (.get key)).1 = .value (t.get? key) := rfl
    rw [hanswer, h]
    exact .get
  | isEmpty =>
    refine .isEmpty (isEmpty_iff.trans ?_)
    simp only [h]
    exact valueAfter_eq_none
  | unsupportedKeys =>
    have hunderstood : OptionKey.supported = understoodKeys := by decide
    refine .unsupportedKeys ?_ fun key => ?_
    · exact List.pairwise_map.mpr ((pairwise_unsupportedKeys t).imp Bytes.ofString_lt)
    · rw [mem_unsupportedKeys, h, hunderstood]
  | resolve key fallback =>
    have hanswer : (t.perform (.resolve key fallback)).1 = .text (t.resolve key fallback) := rfl
    rw [hanswer, resolve_eq, h]
    split
    · rename_i hunfilled
      obtain ⟨rfl, hvalue⟩ := hunfilled
      exact .unfilled hvalue
    · exact .resolve ‹_›
  | malformed => exact .malformed

private theorem eq_of_increasing {keys keys' : List String}
    (h : (keys.map Bytes.ofString).Pairwise (· < ·))
    (h' : (keys'.map Bytes.ofString).Pairwise (· < ·)) (hmem : ∀ key, key ∈ keys ↔ key ∈ keys') :
    keys = keys' := by
  rw [List.pairwise_map] at h h'
  have hne {a b : String} (hlt : Bytes.ofString a < Bytes.ofString b) : a ≠ b := by
    rintro rfl
    exact List.lt_irrefl _ hlt
  have hperm : keys.Perm keys' :=
    (List.perm_ext_iff_of_nodup (h.imp hne) (h'.imp hne)).mpr hmem
  exact hperm.eq_of_pairwise (fun a b _ _ hab hba => absurd hba (List.lt_asymm hab)) h h'

/-- There is one answer to a request. -/
theorem Answers.unique {r : Request} {a a' : Answer} (h : Answers start before r a)
    (h' : Answers start before r a') : a = a' := by
  cases h with
  | insert | put | get | malformed =>
    cases h'
    rfl
  | isEmpty hb =>
    cases h' with
    | isEmpty hb' => rw [Bool.eq_iff_iff.mpr (hb.trans hb'.symm)]
  | unsupportedKeys horder hkeys =>
    cases h' with
    | unsupportedKeys horder' hkeys' =>
      rw [eq_of_increasing horder horder' fun key => (hkeys key).trans (hkeys' key).symm]
  | unfilled hvalue =>
    cases h' with
    | unfilled => rfl
    | resolve hnot => exact absurd ⟨rfl, hvalue⟩ hnot
  | resolve hnot =>
    cases h' with
    | unfilled hvalue => exact absurd ⟨rfl, hvalue⟩ hnot
    | resolve => rfl

/-- Whatever requests come to a table, each of them is answered by what was written last or was
there at the start, and the table holds just that after them. -/
theorem answers_follow_history (start : OptionTable) :
    (∀ before r after a, (start.performAll (before ++ r :: after)).1[before.length]? = some a ↔
      Answers start before r a) ∧
    ∀ requests, (start.performAll requests).1.length = requests.length ∧
      ∀ key, (start.performAll requests).2.get? key = start.valueAfter requests key := by
  refine ⟨fun before r after a => ?_, fun requests =>
    ⟨length_performAll start requests, get?_performAll start requests⟩⟩
  have hanswer : (start.performAll (before ++ r :: after)).1[before.length]? =
      some ((start.performAll before).2.perform r).1 := by
    have hlength := Nat.le_of_eq (length_performAll start before)
    rw [fst_performAll_append, List.getElem?_append_right hlength, length_performAll, Nat.sub_self]
    rfl
  have hcorrect := perform_answers (get?_performAll start before) r
  rw [hanswer, Option.some_inj]
  constructor
  · rintro rfl
    exact hcorrect
  · exact hcorrect.unique

end PluginWrapper.OptionTable
