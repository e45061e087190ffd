import PluginWrapper.Config.Draft
import PluginWrapper.Proofs.Config.Setting
import PluginWrapper.Proofs.Except
import PluginWrapper.Proofs.OptionTable

/-! Configurations read from tables of settings, by what the tables hold under the keys that are
understood. -/
namespace PluginWrapper

/-- A scalar that is a text, or a character that stands for one. -/
inductive Scalar.Spells : Scalar → String → Prop where
  | text (s : String) : Spells (.text s) s
  | char (c : Char) : Spells (.char c) c.toString

namespace Setting

theorem asText_of_spells {v : Scalar} {s : String} (h : v.Spells s) (o : Origin)
    (path : List String) : asText path (.scalar o v) = .ok s := by
  cases h <;> rfl

theorem asFormat_text (format : LogFormat) (o : Origin) (path : List String) :
    asFormat path (.scalar o (.text format.text)) = .ok format := by
  cases format <;> rfl

def Reads {α : Type} (read : Setting → Except Fault α) (missing : α) : Option Setting → α → Prop
  | none, a => a = missing
  | some s, a => read s = .ok a

private theorem Reads.elim {α : Type} {read : Setting → Except Fault α} {missing a : α}
    {s : Option Setting} (h : Reads read missing s a) : s.elim (.ok missing) read = .ok a := by
  cases s with
  | none => exact congrArg Except.ok (Eq.symm h)
  | some s => exact h

section Entries
variable {α β γ : Type} {mk : α → β → γ} {step : γ → String × Setting → Except Fault γ}
  {key₁ key₂ : String} {read₁ : Setting → Except Fault α} {read₂ : Setting → Except Fault β}
  {entries : List (String × Setting)}

/-- A record of two fields that are read from the entries of a table, each under its own key. Where
the first can be read, the second decides. -/
private theorem foldlM_entries_eq (hne : key₁ ≠ key₂)
    (hfirst : ∀ a b v, step (mk a b) (key₁, v) = (read₁ v).map (mk · b))
    (hsecond : ∀ a b v, step (mk a b) (key₂, v) = (read₂ v).map (mk a))
    (hother : ∀ c key v, key ≠ key₁ → key ≠ key₂ → step c (key, v) = .ok c)
    (hkeys : (entries.map Prod.fst).Nodup) {a a' : α}
    (ha : Reads read₁ a (entries.lookup key₁) a') (b : β) :
    entries.foldlM step (mk a b) =
      ((entries.lookup key₂).elim (.ok b) read₂).map (mk a') := by
  induction entries generalizing a b with
  | nil =>
    cases ha
    rfl
  | cons entry rest ih =>
    obtain ⟨key, v⟩ := entry
    obtain ⟨hkey, hrest⟩ := List.nodup_cons.mp hkeys
    rw [lookup_cons_eq_ite] at ha ⊢
    rw [List.foldlM_cons]
    -- The key that is read here is not read again.
    have hnone : rest.lookup key = none := lookup_eq_none_iff_keys.mpr hkey
    by_cases h₁ : key = key₁
    · subst h₁
      rw [if_pos rfl] at ha
      rw [if_neg hne.symm, hfirst, show read₁ v = .ok a' from ha]
      exact ih hrest (by rw [hnone]; rfl) b
    rw [if_neg (Ne.symm h₁)] at ha
    by_cases h₂ : key = key₂
    · subst h₂
      rw [if_pos rfl, hsecond, Option.elim_some]
      cases read₂ v with
      | error e => rfl
      | ok b' => exact (ih hrest ha b').trans (by rw [hnone]; rfl)
    · rw [if_neg (Ne.symm h₂), hother _ _ _ h₁ h₂]
      exact ih hrest ha b

private theorem foldlM_entries (hne : key₁ ≠ key₂)
    (hfirst : ∀ a b v, step (mk a b) (key₁, v) = (read₁ v).map (mk · b))
    (hsecond : ∀ a b v, step (mk a b) (key₂, v) = (read₂ v).map (mk a))
    (hother : ∀ c key v, key ≠ key₁ → key ≠ key₂ → step c (key, v) = .ok c)
    (hkeys : (entries.map Prod.fst).Nodup) {a a' : α} {b b' : β}
    (ha : Reads read₁ a (entries.lookup key₁) a') (hb : Reads read₂ b (entries.lookup key₂) b') :
    entries.foldlM step (mk a b) = .ok (mk a' b') := by
  rw [foldlM_entries_eq hne hfirst hsecond hother hkeys ha, hb.elim]
  rfl

end Entries

private theorem exists_eq_map_text {o : Origin} {entries : List (String × Setting)}
    (h : ∀ entry ∈ entries, ∃ s, entry.2 = .scalar o (.text s)) :
    ∃ texts : List (String × String),
      entries = texts.map fun e => (e.1, .scalar o (.text e.2)) := by
  induction entries with
  | nil => exact ⟨[], rfl⟩
  | cons entry rest ih =>
    obtain ⟨⟨s, hs⟩, hrest⟩ := List.forall_mem_cons.mp h
    obtain ⟨texts, rfl⟩ := ih hrest
    exact ⟨(entry.1, s) :: texts, by rw [List.map_cons, ← hs]⟩

/-- Texts are taken over as they are. -/
theorem asOptions_ofFields (o : Origin) (path : List String) (options : List (String × String)) :
    ∃ t, asOptions path (.table o (ofFields o (options.map fun e => (e.1, .str e.2)))) = .ok t ∧
      ∀ k, t.get? k = options.lookup k := by
  have hsorted := sorted_ofFields o (options.map fun e => (e.1, Value.str e.2))
  have hlookup (k : String) : (ofFields o (options.map fun e => (e.1, .str e.2))).lookup k =
      (options.lookup k).map fun s => .scalar o (.text s) := by
    rw [lookup_ofFields, lookup_map_snd Value.str, Option.map_map]
    rfl
  have htexts : ∀ entry ∈ ofFields o (options.map fun e => (e.1, .str e.2)),
      ∃ s, entry.2 = .scalar o (.text s) := by
    intro entry hentry
    have hvalue := (hlookup entry.1).symm.trans (lookup_of_mem hsorted.nodup hentry)
    obtain ⟨s, -, hs⟩ := Option.map_eq_some_iff.mp hvalue
    exact ⟨s, hs.symm⟩
  obtain ⟨texts, heq⟩ := exists_eq_map_text htexts
  rw [heq] at hsorted hlookup ⊢
  have hread : List.Forall₂ (fun e e' => (do pure (e.1, ← asText (path ++ [e.1]) e.2)) = .ok e')
      (texts.map fun e => (e.1, Setting.scalar o (.text e.2))) texts :=
    List.forall₂_map_left_iff.mpr (List.forall₂_same.mpr fun _ _ => rfl)
  refine ⟨.ofList texts, bind_eq_ok.mpr ⟨texts, mapM_eq_ok.mpr hread, rfl⟩, fun k => ?_⟩
  have hkeys := hsorted.nodup
  rw [List.map_map] at hkeys
  have hk := hlookup k
  rw [lookup_map_snd fun s => Setting.scalar o (.text s)] at hk
  rw [OptionTable.get?_ofList hkeys]
  exact Option.map_injective (fun s s' h => by simpa using h) hk

end Setting

theorem LoggingDraft.ofSetting_table {o : Origin} {path : List String}
    {entries : List (String × Setting)} (h : Setting.Sorted entries) {d : LoggingDraft}
    (hlevel : Setting.Reads (Setting.asText (path ++ ["level"])) "info"
      (entries.lookup "level") d.level)
    (hformat : Setting.Reads (Setting.asFormat (path ++ ["format"])) .pretty
      (entries.lookup "format") d.format) :
    ofSetting path (.table o entries) = .ok d := by
  refine Setting.foldlM_entries (by decide) (fun _ _ v => ?_) (fun _ _ v => ?_)
    (fun _ key v h₁ h₂ => ?_) h.nodup hlevel hformat
  · cases hv : Setting.asText (path ++ ["level"]) v <;> simp [readEntry, hv, Except.map, bind,
      Except.bind, pure, Except.pure]
  · cases hv : Setting.asFormat (path ++ ["format"]) v <;> simp [readEntry, hv, Except.map, bind,
      Except.bind, pure, Except.pure]
  · simp [readEntry, h₁, h₂, pure, Except.pure]

/-- Where the settings of the log can be read, those of the options decide. -/
theorem ConfigDraft.ofSetting_eq {o : Origin} {entries : List (String × Setting)}
    (h : Setting.Sorted entries) {logging : LoggingDraft}
    (hlogging : Setting.Reads (LoggingDraft.ofSetting ["logging"]) .default
      (entries.lookup "logging") logging) :
    ofSetting (.table o entries) =
      ((entries.lookup "options").elim (.ok .empty) (Setting.asOptions ["options"])).map
        (⟨logging, ·⟩) := by
  refine Setting.foldlM_entries_eq (by decide) (fun _ _ v => ?_) (fun _ _ v => ?_)
    (fun _ key v h₁ h₂ => ?_) h.nodup hlogging _
  · cases hv : LoggingDraft.ofSetting ["logging"] v <;> simp [readEntry, hv, Except.map, bind,
      Except.bind, pure, Except.pure]
  · cases hv : Setting.asOptions ["options"] v <;> simp [readEntry, hv, Except.map, bind,
      Except.bind, pure, Except.pure]
  · simp [readEntry, h₁, h₂, pure, Except.pure]

theorem ConfigDraft.ofSetting_table {o : Origin} {entries : List (String × Setting)}
    (h : Setting.Sorted entries) {d : ConfigDraft}
    (hlogging : Setting.Reads (LoggingDraft.ofSetting ["logging"]) .default
      (entries.lookup "logging") d.logging)
    (hoptions : Setting.Reads (Setting.asOptions ["options"]) .empty
      (entries.lookup "options") d.options) :
    ofSetting (.table o entries) = .ok d := by
  rw [ConfigDraft.ofSetting_eq h hlogging, hoptions.elim]
  rfl

end PluginWrapper
