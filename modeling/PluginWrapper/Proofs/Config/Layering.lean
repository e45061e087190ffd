import PluginWrapper.Config
import PluginWrapper.Proofs.Config.Environment
import PluginWrapper.Proofs.Value.Comparison

/-! How the configuration comes together: defaults, the configuration file, the environment, and the
options that are given directly, each of which goes over what comes before it. -/
namespace PluginWrapper

theorem Level.ofText?_eq_none_iff (name : String) :
    Level.ofText? name = none ↔ name ∉ ["trace", "debug", "info", "warn", "error"] := by
  have htexts : Level.all.map Level.text = ["trace", "debug", "info", "warn", "error"] := rfl
  rw [← htexts, Level.ofText?, List.find?_eq_none]
  simp

namespace Config

/-- The fields of the configuration file that is read, of which there are none without one. -/
inductive FileHolds (tree : FileTree) (path : Option String) : List (String × Value) → Prop where
  | found {file : List Char} {text : String} {fields : List (String × Value)} :
    tree.hasPath (path.getD defaultFile).toList →
    (candidates tree.workingDirectory (path.getD defaultFile)).find? tree.isFile = some file →
    tree.readFile file = .ok text → Toml.read? text = some fields → FileHolds tree path fields
  | directory :
    tree.hasPath (path.getD defaultFile).toList →
    (candidates tree.workingDirectory (path.getD defaultFile)).find? tree.isFile = none →
    FileHolds tree path []
  | missing : path = none → tree.hasPath defaultFile.toList = false → FileHolds tree path []

/-- The fields of a document set the log and options, and their other content does not matter. -/
structure Sets (fields : List (String × Value)) (level : Option String)
    (format : Option LogFormat) (options : List (String × String)) : Prop where
  readable : Setting.isReadable fields
  logging : ∃ logging, (fields.lookup "logging").getD (.map []) = .map logging ∧
    Setting.valueKey ∉ logging.map Prod.fst ∧
    logging.lookup "level" = level.map .str ∧
    logging.lookup "format" = format.map fun f => .str f.text
  options : (fields.lookup "options").getD (.map []) = .map (options.map fun e => (e.1, .str e.2)) ∧
    Setting.valueKey ∉ options.map Prod.fst

theorem baseLayer_of_fileHolds {tree : FileTree} {path : Option String}
    {fields : List (String × Value)} (h : FileHolds tree path fields)
    (hreadable : Setting.isReadable fields) :
    ∃ o, baseLayer tree path = .ok (.table o (Setting.ofFields o fields)) := by
  have hbase (hpath : tree.hasPath (path.getD defaultFile).toList) :
      baseLayer tree path = fileLayer tree (path.getD defaultFile) := by
    cases path with
    | none => exact if_pos hpath
    | some path => exact if_pos hpath
  cases h with
  | @found file text fields hpath hfile htext hfields =>
    refine ⟨.file (String.ofList (shownPath tree.workingDirectory file)), ?_⟩
    simp only [hbase hpath, fileLayer, hfile, htext, hfields, if_pos hreadable]
    rfl
  | directory hpath hfile =>
    refine ⟨.environment, ?_⟩
    simp only [hbase hpath, fileLayer, hfile]
    rfl
  | missing hnone hpath =>
    subst hnone
    exact ⟨.environment, by rw [baseLayer, hpath]; rfl⟩

section Merge

variable {fields : List (String × Value)} {level envLevel : Option String}
  {format envFormat : Option LogFormat} {options : List (String × String)} {v : Option Scalar}

private theorem ofSetting_logging (o : Origin) {o' : Origin} {entries : List (String × Setting)}
    (hsorted : Setting.Sorted entries) (hv : Option.Rel Scalar.Spells v envLevel)
    (hlevel : entries.lookup "level" =
      (v.map (.scalar .environment)).or (level.map fun s => .scalar o (.text s)))
    (hformat : entries.lookup "format" =
      ((envFormat.map fun f => .text f.text).map (.scalar .environment)).or
        (format.map fun f => .scalar o (.text f.text))) :
    LoggingDraft.ofSetting ["logging"] (.table o' entries) =
      .ok ⟨(envLevel.or level).getD "info", (envFormat.or format).getD .pretty⟩ := by
  apply LoggingDraft.ofSetting_table hsorted
  · rw [hlevel]
    cases hv with
    | some hspells => exact Setting.asText_of_spells hspells _ _
    | none => cases level <;> rfl
  · rw [hformat]
    cases envFormat with
    | some f => exact Setting.asFormat_text f _ _
    | none =>
      cases format with
      | some f => exact Setting.asFormat_text f _ _
      | none => rfl

/-- Nobody sets the log, or its table has what the environment sets and else what the file sets. -/
private theorem lookup_logging_cases {logging : List (String × Value)}
    (hfield : (fields.lookup "logging").getD (.map []) = .map logging)
    (hvalue : Setting.valueKey ∉ logging.map Prod.fst) (v : Option Scalar)
    (envFormat : Option LogFormat) (o : Origin) :
    let found := (Setting.overlayEntries (Setting.ofFields o fields)
      (Environment.logged v envFormat)).lookup "logging"
    (found = none ∧ v = none ∧ envFormat = none ∧ logging = []) ∨
    ∃ o' entries, found = some (.table o' entries) ∧ Setting.Sorted entries ∧
      ∀ k (w : Option Scalar), (Environment.logEntries v envFormat).lookup k =
          w.map (.scalar .environment) →
        entries.lookup k =
          (w.map (.scalar .environment)).or ((Setting.ofFields o logging).lookup k) := by
  have hfile := Setting.lookup_ofFields_table hfield hvalue o
  have hsorted := Setting.sorted_ofFields o logging
  have hlog := Environment.sorted_logEntries v envFormat
  obtain ⟨rfl, rfl⟩ | hlogged := Environment.logged_cases v envFormat
  · rw [show Environment.logged none none = [] from rfl, Setting.overlayEntries]
    obtain ⟨hnone, hempty⟩ | hsome := hfile
    · exact .inl ⟨hnone, rfl, rfl, hempty⟩
    · refine .inr ⟨o, _, hsome, hsorted, fun k w hw => ?_⟩
      rw [← hw]
      rfl
  · rw [hlogged, Setting.lookup_overlayEntries (Setting.sorted_ofFields o fields) (by simp),
      lookup_cons_eq_ite, if_pos rfl]
    obtain ⟨hnone, rfl⟩ | hsome := hfile
    · rw [hnone]
      refine .inr ⟨_, _, rfl, hlog, fun k w hw => ?_⟩
      rw [hw]
      exact (Option.or_none).symm
    · rw [hsome]
      simp only [Setting.atop, Setting.overlay]
      exact .inr ⟨_, _, rfl, hsorted.overlayEntries _, fun k w hw =>
        Setting.lookup_overlayEntries_scalar hsorted hlog.nodup hw⟩

/-- The variables for the log go over what the file sets, and this over the defaults. -/
theorem reads_logging (h : Sets fields level format options)
    (hv : Option.Rel Scalar.Spells v envLevel) (o : Origin) :
    Setting.Reads (LoggingDraft.ofSetting ["logging"]) .default
      ((Setting.overlayEntries (Setting.ofFields o fields)
        (Environment.logged v envFormat)).lookup "logging")
      ⟨(envLevel.or level).getD "info", (envFormat.or format).getD .pretty⟩ := by
  obtain ⟨logging, hfield, hvalue, hlevel, hformat⟩ := h.logging
  obtain ⟨hnone, rfl, rfl, rfl⟩ | ⟨o', entries, hsome, hsorted, hlookup⟩ :=
    lookup_logging_cases hfield hvalue v envFormat o
  · cases hv
    obtain rfl := Option.map_eq_none_iff.mp hlevel.symm
    obtain rfl := Option.map_eq_none_iff.mp hformat.symm
    rw [hnone]
    rfl
  · have hfileLevel : (Setting.ofFields o logging).lookup "level" =
        level.map fun s => .scalar o (.text s) := by
      rw [Setting.lookup_ofFields, hlevel, Option.map_map]
      rfl
    have hfileFormat : (Setting.ofFields o logging).lookup "format" =
        format.map fun f => .scalar o (.text f.text) := by
      rw [Setting.lookup_ofFields, hformat, Option.map_map]
      rfl
    rw [hsome]
    refine ofSetting_logging o hsorted hv ?_ ?_
    · rw [← hfileLevel]
      exact hlookup _ _ (Environment.lookup_level_logEntries v envFormat)
    · rw [← hfileFormat]
      exact hlookup _ _ (Environment.lookup_format_logEntries v envFormat)

private theorem reads_options (h : Sets fields level format options) (v : Option Scalar)
    (envFormat : Option LogFormat) (o : Origin) :
    ∃ t, Setting.Reads (Setting.asOptions ["options"]) .empty
      ((Setting.overlayEntries (Setting.ofFields o fields)
        (Environment.logged v envFormat)).lookup "options") t ∧
      ∀ k, t.get? k = options.lookup k := by
  obtain ⟨hfield, hvalue⟩ := h.options
  have hkeys : Setting.valueKey ∉
      (options.map fun e => (e.1, Value.str e.2)).map Prod.fst := by
    rwa [List.map_map]
  have hfile := Setting.lookup_ofFields_table hfield hkeys o
  have hlookup : (Setting.overlayEntries (Setting.ofFields o fields)
      (Environment.logged v envFormat)).lookup "options" =
        (Setting.ofFields o fields).lookup "options" := by
    obtain ⟨rfl, rfl⟩ | hlogged := Environment.logged_cases v envFormat
    · rw [show Environment.logged none none = [] from rfl, Setting.overlayEntries]
    · rw [hlogged, Setting.lookup_overlayEntries (Setting.sorted_ofFields o fields) (by simp)]
      simp [lookup_cons_eq_ite]
  rw [hlookup]
  obtain ⟨hnone, hempty⟩ | hsome := hfile
  · obtain rfl := List.map_eq_nil_iff.mp hempty
    exact ⟨.empty, by rw [hnone]; rfl, fun k => OptionTable.get?_empty k⟩
  · obtain ⟨t, ht, hget⟩ := Setting.asOptions_ofFields o ["options"] options
    exact ⟨t, by rw [hsome]; exact ht, hget⟩

/-- The configuration of a file and an environment, before its level is checked. -/
theorem draft_of_layers {env : Environment} {envOptions : List (String × String)}
    (hfields : Sets fields level format options)
    (henv : Environment.Assigns env envLevel envFormat envOptions) (o : Origin) :
    ∃ t, ConfigDraft.ofSetting
        (Setting.overlay (.table o (Setting.ofFields o fields)) env.layer) =
          .ok ⟨⟨(envLevel.or level).getD "info", (envFormat.or format).getD .pretty⟩, t⟩ ∧
      ∀ k, t.get? k = options.lookup k := by
  obtain ⟨v, hv, hlayer⟩ := Environment.layer_eq henv
  obtain ⟨t, ht, hget⟩ := reads_options hfields v envFormat o
  rw [hlayer, Setting.overlay]
  exact ⟨t, ConfigDraft.ofSetting_table ((Setting.sorted_ofFields o fields).overlayEntries _)
    (reads_logging hfields hv o) ht, hget⟩

end Merge

theorem load_eq {tree : FileTree} {path : Option String} {fields : List (String × Value)}
    {level envLevel : Option String} {format envFormat : Option LogFormat}
    {options envOptions : List (String × String)} {env : Environment}
    (hfile : FileHolds tree path fields) (hfields : Sets fields level format options)
    (henv : Environment.Assigns env envLevel envFormat envOptions) :
    ∃ t : OptionTable, (∀ k, t.get? k = (envOptions.reverse.lookup k).or (options.lookup k)) ∧
      load tree env path = (checkLevel ((envLevel.or level).getD "info")).map fun l =>
        ⟨l, (envFormat.or format).getD .pretty, t⟩ := by
  obtain ⟨o, hbase⟩ := baseLayer_of_fileHolds hfile hfields.readable
  obtain ⟨t, hdraft, hget⟩ := draft_of_layers hfields henv o
  refine ⟨t.insertAll env.options, fun k => ?_, ?_⟩
  · rw [OptionTable.get?_insertAll, Environment.options_eq henv, hget]
  · rw [load, hbase]
    simp only [bind, Except.bind, hdraft, Except.mapError]
    cases checkLevel ((envLevel.or level).getD "info") <;> rfl

/-- What a configuration is put together to. The level has to be one of five; an option is what is
given directly, or else what the environment sets, or else what the file sets, and in the first two
of these the last value counts. -/
theorem load_withOptions {tree : FileTree} {path : Option String} {fields : List (String × Value)}
    {level envLevel : Option String} {format envFormat : Option LogFormat}
    {options envOptions : List (String × String)} {env : Environment}
    (hfile : FileHolds tree path fields) (hfields : Sets fields level format options)
    (henv : Environment.Assigns env envLevel envFormat envOptions)
    (overrides : List (String × String)) :
    ((envLevel.or level).getD "info" ∉ ["trace", "debug", "info", "warn", "error"] →
      (load tree env path).map (·.withOptions overrides) =
        .error (.invalidLevel ((envLevel.or level).getD "info"))) ∧
    ((envLevel.or level).getD "info" ∈ ["trace", "debug", "info", "warn", "error"] →
      ∃ c, (load tree env path).map (·.withOptions overrides) = .ok c ∧
        ∀ k, c.options.get? k = (overrides.reverse.lookup k).or
          ((envOptions.reverse.lookup k).or (options.lookup k))) := by
  obtain ⟨t, hget, hload⟩ := load_eq hfile hfields henv
  rw [hload]
  constructor
  · intro hlevel
    rw [checkLevel, (Level.ofText?_eq_none_iff _).mpr hlevel]
    rfl
  · intro hlevel
    have hsome := mt (Level.ofText?_eq_none_iff _).mp (not_not.mpr hlevel)
    obtain ⟨l, hl⟩ := Option.ne_none_iff_exists'.mp hsome
    rw [checkLevel, hl]
    refine ⟨⟨l, (envFormat.or format).getD .pretty, t.insertAll overrides⟩, rfl, fun k => ?_⟩
    rw [OptionTable.get?_insertAll, hget]

private def project (text : String) : FileTree :=
  (FileTree.inside ["work"]).put ["work", defaultFile] (.file (Bytes.ofString text))

private theorem fileHolds_project {text : String} {fields : List (String × Value)}
    (hpath : (project text).hasPath defaultFile.toList = true)
    (hfile : (candidates ["work"] defaultFile).find? (project text).isFile =
      some "/work/cubegen.toml".toList)
    (htext : ((project text).readFile "/work/cubegen.toml".toList).toOption = some text)
    (hfields : (Toml.read? text).any (Value.areSameFields · fields) = true) :
    FileHolds (project text) none fields :=
  .found hpath hfile (toOption_eq_some.mp htext) (Toml.read?_eq_some hfields)

private def teamFile : String :=
  "[logging]\nlevel = \"debug\"\n[options]\n\"cubeengine.module.team\" = \"File\"\n"

private def teamFields : List (String × Value) :=
  [("logging", .map [("level", .str "debug")]),
    ("options", .map [("cubeengine.module.team", .str "File")])]

private def teamEnvironment : Environment :=
  [("PATH", "/bin"), ("CUBEGEN__OPTIONS__MODULE_TEAM", "Variable"),
    ("cubegen__logging__level", "warn")]

/-- One option that a file and a variable set. -/
theorem load_withOptions_team :
    FileHolds (project teamFile) none teamFields ∧
    Sets teamFields (some "debug") none [("cubeengine.module.team", "File")] ∧
    Environment.Assigns teamEnvironment (some "warn") none
      [("cubeengine.module.team", "Variable")] ∧
    ∃ c, (load (project teamFile) teamEnvironment none).map (·.withOptions []) = .ok c ∧
      c.options.get? "cubeengine.module.team" = some "Variable" := by
  have hfile : FileHolds (project teamFile) none teamFields :=
    fileHolds_project (by decide +kernel) (by decide +kernel) (by decide +kernel)
      (by decide +kernel)
  have hfields : Sets teamFields (some "debug") none [("cubeengine.module.team", "File")] :=
    ⟨rfl, ⟨_, rfl, by decide, rfl, rfl⟩, rfl, by decide⟩
  have hname : Text.trim "CUBEGEN__OPTIONS__MODULE_TEAM".toList =
      "CUBEGEN__OPTIONS__".toList ++ "MODULE_TEAM".toList := by decide +kernel
  have hblank : ∀ c ∈ "MODULE_TEAM".toList, Text.isBlank c = false := by
    have hall : "MODULE_TEAM".toList.all (!Text.isBlank ·) = true := by decide +kernel
    simpa only [List.all_eq_true, Bool.not_eq_true'] using hall
  have hread : Literal.read "warn" = .scalar .environment (.text "warn") := rfl
  have henv : Environment.Assigns teamEnvironment (some "warn") none
      [("cubeengine.module.team", "Variable")] :=
    .other (by decide +kernel) (.option hname (by decide) (by decide) (by decide) hblank
      (by decide +kernel) (.level (by decide +kernel) hread (.text "warn") .nil))
  obtain ⟨c, hload, hget⟩ := (load_withOptions hfile hfields henv []).2 (by decide)
  exact ⟨hfile, hfields, henv, c, hload, hget _⟩

private def originText : String := "[options]\n___figment_value_id=\"1\"\n"

private def valueText : String := "[options]\n___figment_value_value=\"1\"\n"

/-- Where a table of texts has a key with a meaning of its own, nothing is loaded; and the blanks
before the name of a variable do not keep it from being read. -/
theorem load_exceptions :
    (FileHolds (project originText) none [("options", .map [("___figment_value_id", .str "1")])] ∧
      (load (project originText) [] none).isOk = false) ∧
    (FileHolds (project valueText) none
        [("options", .map [("___figment_value_value", .str "1")])] ∧
      (load (project valueText) [] none).isOk = false) ∧
    (¬ "CUBEGEN__".toList <+: " CUBEGEN__LOGGING__LEVEL".toList ∧
      (load (.inside ["work"]) [(" CUBEGEN__LOGGING__LEVEL", "loud")] none).isOk = false) := by
  refine ⟨⟨fileHolds_project ?_ ?_ ?_ ?_, ?_⟩, ⟨fileHolds_project ?_ ?_ ?_ ?_, ?_⟩, ?_, ?_⟩
  all_goals decide +kernel

end Config

end PluginWrapper
