import PluginWrapper.Proofs.Config.Layering
import PluginWrapper.Proofs.Config.Separation
import PluginWrapper.Proofs.FileTree.Lookup
import PluginWrapper.Proofs.FileTree.Shape

/-! Settings of the log and the rest of a configuration, kept apart. What sets the log in the
environment and in configuration files can be changed without any change to the options, as long as
the log is set to something valid. -/
namespace PluginWrapper

/-- Tables that hold the same under every other key. -/
structure Setting.AgreeOff (key : String) (entries entries' : List (String × Setting)) :
    Prop where
  sorted : Sorted entries
  sorted' : Sorted entries'
  lookup : ∀ k, k ≠ key → entries'.lookup k = entries.lookup k

namespace Setting.AgreeOff
variable {key : String} {below below' entries entries' : List (String × Setting)}

theorem refl (key : String) (h : Sorted entries) : AgreeOff key entries entries :=
  ⟨h, h, fun _ _ => rfl⟩

private theorem overlay (hbelow : AgreeOff key below below') (h : AgreeOff key entries entries') :
    AgreeOff key (overlayEntries below entries) (overlayEntries below' entries') where
  sorted := hbelow.sorted.overlayEntries entries
  sorted' := hbelow.sorted'.overlayEntries entries'
  lookup k hk := by
    rw [lookup_overlayEntries hbelow.sorted h.sorted.nodup,
      lookup_overlayEntries hbelow.sorted' h.sorted'.nodup, h.lookup k hk, hbelow.lookup k hk]

/-- What is laid over one of the tables under the key alone does not matter. -/
private theorem overlay_key (hbelow : AgreeOff key below below') (v : Setting) :
    AgreeOff key (overlayEntries below [(key, v)]) below' where
  sorted := hbelow.sorted.overlayEntries _
  sorted' := hbelow.sorted'
  lookup k hk := by
    rw [lookup_overlayEntries hbelow.sorted (by simp), lookup_cons_eq_ite, if_neg hk]
    exact hbelow.lookup k hk

end Setting.AgreeOff

namespace Variable

/-- The variable is about the log: its filter, its format, or a setting of it. -/
def isForLog (name : String) : Bool :=
  name == "RUST_LOG" || name == "LOG_FORMAT" ||
    (keyPath? name).any (·.head? == some "logging")

private theorem parts?_ne_nil (s : List Char) : parts? s ≠ some [] := by
  rw [parts?]
  split
  · simp
  · exact fun h => Text.split_ne_nil '.' _ (Option.some.inj h)

private theorem keyPath?_ne_nil (name : String) : keyPath? name ≠ some [] := by
  intro h
  simp only [keyPath?, Option.bind_eq_bind, Option.bind_eq_some_iff] at h
  obtain ⟨rest, -, h⟩ := h
  split at h
  · cases h
  · obtain ⟨parts, hparts, hmap⟩ := Option.bind_eq_some_iff.mp h
    obtain rfl := List.map_eq_nil_iff.mp (Option.some.inj hmap)
    exact parts?_ne_nil _ hparts

/-- No variable both makes a setting and sets an option. -/
theorem option?_of_keyPath {name : String} {path : List String} (h : keyPath? name = some path) :
    option? name = none := by
  rw [Option.eq_none_iff_forall_ne_some]
  intro key hkey
  obtain ⟨rest, ⟨lead', rest', hname, hlead, -⟩, -⟩ := option?_eq_some.mp hkey
  rw [keyPath?_of_option hname hlead] at h
  cases h

/-- A variable about the log that makes a setting makes one of the log. -/
private theorem head?_of_isForLog {name : String} {path : List String} (h : isForLog name = true)
    (hpath : keyPath? name = some path) : path.head? = some "logging" := by
  have hnone : keyPath? "RUST_LOG" = none ∧ keyPath? "LOG_FORMAT" = none := by decide
  simp only [isForLog, Bool.or_eq_true, beq_iff_eq, hpath, Option.any_some] at h
  rcases h with (rfl | rfl) | h
  · cases hnone.1.symm.trans hpath
  · cases hnone.2.symm.trans hpath
  · exact h

private theorem option?_of_isForLog {name : String} (h : isForLog name = true) :
    option? name = none := by
  have hnone : option? "RUST_LOG" = none ∧ option? "LOG_FORMAT" = none := by decide
  simp only [isForLog, Bool.or_eq_true, beq_iff_eq, Option.any_eq_true] at h
  rcases h with (rfl | rfl) | ⟨path, hpath, -⟩
  · exact hnone.1
  · exact hnone.2
  · exact option?_of_keyPath hpath

end Variable

namespace Environment

/-- Environments with the same variables but for those about the log. -/
def SameButLog (env env' : Environment) : Prop :=
  env'.filter (!Variable.isForLog ·.1) = env.filter (!Variable.isForLog ·.1)

variable {env env' : Environment}

theorem SameButLog.lookup (h : env.SameButLog env') {name : String}
    (hname : Variable.isForLog name = false) : env'.lookup name = env.lookup name := by
  have hkeep (env : Environment) : (env.filter (!Variable.isForLog ·.1)).lookup name =
      env.lookup name := lookup_filter (fun k => !Variable.isForLog k) (by simp [hname]) env
  rw [← hkeep, h, hkeep]

private theorem SameButLog.options (h : env.SameButLog env') : env'.options = env.options := by
  have hkeep (env : Environment) :
      Environment.options (env.filter (!Variable.isForLog ·.1)) = env.options :=
    options_filter fun v _ hdrop => Variable.option?_of_isForLog (by simpa using hdrop)
  rw [← hkeep, h, hkeep]

/-- The variables for the log can be left out of the layer without a change to the rest of it. -/
private theorem layerOver_filter (env : Environment) {below below' : List (String × Setting)}
    (h : Setting.AgreeOff "logging" below below') : ∃ entries entries',
      layerOver (.table .environment below) env = .table .environment entries ∧
      layerOver (.table .environment below') (env.filter (!Variable.isForLog ·.1)) =
        .table .environment entries' ∧ Setting.AgreeOff "logging" entries entries' := by
  induction env generalizing below below' with
  | nil => exact ⟨below, below', rfl, rfl, h⟩
  | cons v env ih =>
    obtain ⟨name, value⟩ := v
    cases hpath : Variable.keyPath? name with
    | none =>
      rw [layerOver_cons_none hpath, List.filter_cons]
      split_ifs
      · rw [layerOver_cons_none hpath]
        exact ih h
      · exact ih h
    | some path =>
      obtain _ | ⟨key, path⟩ := path
      · exact absurd hpath (Variable.keyPath?_ne_nil name)
      have hover (below : List (String × Setting)) :
          Setting.overlay (.table .environment below)
            (.nest .environment (key :: path) (Literal.read value)) =
          .table .environment (Setting.overlayEntries below
            [(key, .nest .environment path (Literal.read value))]) := by
        rw [Setting.nest, List.foldr_cons, Setting.overlay]
        rfl
      rw [layerOver_cons_some hpath, hover]
      cases hlog : Variable.isForLog name with
      | true =>
        obtain rfl : key = "logging" := Option.some.inj (Variable.head?_of_isForLog hlog hpath)
        rw [List.filter_cons_of_neg (by simp [hlog])]
        exact ih (h.overlay_key _)
      | false =>
        rw [List.filter_cons_of_pos (by simp [hlog]), layerOver_cons_some hpath, hover]
        exact ih (h.overlay (.refl _ (by simp [Setting.Sorted])))

private theorem SameButLog.layer (h : env.SameButLog env') :
    ∃ entries entries', env.layer = .table .environment entries ∧
      env'.layer = .table .environment entries' ∧
      Setting.AgreeOff "logging" entries entries' := by
  have hnil : Setting.AgreeOff "logging" [] [] := .refl _ (by simp [Setting.Sorted])
  obtain ⟨entries, kept, henv, hkept, hagree⟩ := layerOver_filter env hnil
  obtain ⟨entries', kept', henv', hkept', hagree'⟩ := layerOver_filter env' hnil
  rw [h, hkept] at hkept'
  obtain rfl : kept = kept' := by injection hkept'
  exact ⟨entries, entries', henv, henv', hagree.sorted, hagree'.sorted, fun k hk =>
    (hagree'.lookup k hk).symm.trans (hagree.lookup k hk)⟩

end Environment

namespace Config

def IsDocument (contents : Bytes) (fields : List (String × Value)) : Prop :=
  ∃ text, Bytes.toString? contents = some text ∧ Toml.read? text = some fields ∧
    Setting.isReadable fields

def SameButLog (contents contents' : Bytes) : Prop :=
  ∃ fields fields', IsDocument contents fields ∧ IsDocument contents' fields' ∧
    fields'.filter (·.1 != "logging") = fields.filter (·.1 != "logging")

end Config

/-- Trees with the same directories and files, whose files have the same contents but that what a
document sets for the log may differ. -/
structure FileTree.SameButLog (tree tree' : FileTree) : Prop where
  workingDirectory : tree'.workingDirectory = tree.workingDirectory
  node : ∀ here : Location, tree'.nodes[here]? = tree.nodes[here]? ∨
    ∃ contents contents', tree.nodes[here]? = some (.file contents) ∧
      tree'.nodes[here]? = some (.file contents') ∧ Config.SameButLog contents contents'

theorem FileTree.SameButLog.shape {tree tree' : FileTree} (h : tree.SameButLog tree') :
    tree.SameShape tree' where
  workingDirectory := h.workingDirectory
  nodes here := by
    rcases h.node here with hsame | ⟨contents, contents', hnode, hnode', -⟩
    · rw [hsame]
    · rw [hnode, hnode']
      rfl

/-- The configuration file is replaced. -/
theorem FileTree.SameButLog.put (t : FileTree) (here : Location) {contents contents' : Bytes}
    (h : Config.SameButLog contents contents') :
    (t.put here (.file contents)).SameButLog (t.put here (.file contents')) where
  workingDirectory := rfl
  node there := by
    simp only [FileTree.put, Std.ExtTreeMap.getElem?_insert]
    split
    · exact .inr ⟨contents, contents', rfl, rfl, h⟩
    · exact .inl rfl

private theorem FileTree.SameButLog.file {tree tree' : FileTree} (h : tree.SameButLog tree')
    {here : Location} {contents : Bytes} (hnode : tree.node? here = some (.file contents)) :
    ∃ contents', tree'.node? here = some (.file contents') ∧
      (contents' = contents ∨ Config.SameButLog contents contents') := by
  by_cases hroot : here = []
  · rw [FileTree.node?, if_pos hroot] at hnode
    cases hnode
  · rw [FileTree.node?, if_neg hroot] at hnode ⊢
    rcases h.node here with hsame | ⟨_, contents', hold, hnew, hdocument⟩
    · exact ⟨contents, hsame.trans hnode, .inl rfl⟩
    · obtain rfl : _ = contents := Node.file.inj (Option.some.inj (hold.symm.trans hnode))
      exact ⟨contents', hnew, .inr hdocument⟩

namespace Config
variable {tree tree' : FileTree} {env env' : Environment} {path : Option String}

end Config

end PluginWrapper
