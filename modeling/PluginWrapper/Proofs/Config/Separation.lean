import PluginWrapper.Config
import PluginWrapper.Proofs.Config.Environment

/-! Variables that set options and the rest of a configuration, kept apart: whatever such a variable
is called and whatever its value is, it changes one option at most. -/
namespace PluginWrapper

namespace Environment
variable {env : Environment} {keep : String × String → Bool}

/-- What leads to nothing can be left out. -/
private theorem filterMap_filter {α β : Type} {f : α → Option β} {keep : α → Bool} {xs : List α}
    (h : ∀ x ∈ xs, keep x = false → f x = none) :
    (xs.filter keep).filterMap f = xs.filterMap f := by
  rw [List.filterMap_filter]
  refine List.filterMap_congr fun x hx => ?_
  cases hkeep : keep x with
  | true => rfl
  | false => simp [h x hx hkeep]

/-- Variables that make no setting can be left out of the settings. -/
private theorem layer_filter (h : ∀ v ∈ env, keep v = false → Variable.keyPath? v.1 = none) :
    layer (env.filter keep) = layer env :=
  congrArg (List.foldl _ _) (filterMap_filter fun v hv hdrop => by simp [h v hv hdrop])

/-- Variables that set no option can be left out of the options. -/
theorem options_filter (h : ∀ v ∈ env, keep v = false → Variable.option? v.1 = none) :
    options (env.filter keep) = options env :=
  filterMap_filter fun v hv hdrop => by simp [h v hv hdrop]

/-- Variables for other options can be left out when one option is looked for. -/
private theorem lookup_options_filter {key : String}
    (h : ∀ v ∈ env, keep v = false → Variable.option? v.1 ≠ some key) :
    (options (env.filter keep)).reverse.lookup key = (options env).reverse.lookup key := by
  induction env with
  | nil => rfl
  | cons v env ih =>
    obtain ⟨hfirst, hrest⟩ := List.forall_mem_cons.mp h
    have hcons (env : Environment) : (options (v :: env)).reverse.lookup key =
        ((options env).reverse.lookup key).or
          (((Variable.option? v.1).map (·, v.2)).toList.lookup key) := by
      cases hoption : Variable.option? v.1 <;> simp [options, hoption, List.lookup_append]
    cases hkeep : keep v with
    | true => rw [List.filter_cons_of_pos hkeep, hcons, hcons, ih hrest]
    | false =>
      -- The option of the variable, if it sets one, is another.
      have hnone : ((Variable.option? v.1).map (·, v.2)).toList.lookup key = none := by
        refine lookup_eq_none_iff_keys.mpr fun hmem => hfirst hkeep ?_
        cases hoption : Variable.option? v.1 <;> simp_all
      rw [List.filter_cons_of_neg (by simp [hkeep]), hcons, hnone, Option.or_none, ih hrest]

end Environment

namespace Config

/-- The options of the environment come in last, when nothing can fail any more. -/
private theorem load_of_layer_eq {env env' : Environment} (h : env.layer = env'.layer)
    (tree : FileTree) (path : Option String) :
    (∃ e, load tree env path = .error e ∧ load tree env' path = .error e) ∨
    ∃ (level : Level) (format : LogFormat) (t : OptionTable),
      load tree env path = .ok ⟨level, format, t.insertAll env.options⟩ ∧
      load tree env' path = .ok ⟨level, format, t.insertAll env'.options⟩ := by
  rw [load, load, h]
  cases baseLayer tree path with
  | error e => exact .inl ⟨e, rfl, rfl⟩
  | ok base =>
    simp only [bind, Except.bind]
    cases (ConfigDraft.ofSetting (base.overlay env'.layer)).mapError Error.fault with
    | error e => exact .inl ⟨e, rfl, rfl⟩
    | ok draft =>
      dsimp only
      cases checkLevel draft.logging.level with
      | error e => exact .inl ⟨e, rfl, rfl⟩
      | ok level => exact .inr ⟨level, draft.logging.format, draft.options, rfl, rfl⟩

/-- An option that none of the variables stands for does not need them. -/
theorem get?_load_filter {env : Environment} {keep : String × String → Bool} {key : String}
    (hpath : ∀ v ∈ env, keep v = false → Variable.keyPath? v.1 = none)
    (hoption : ∀ v ∈ env, keep v = false → Variable.option? v.1 ≠ some key) (tree : FileTree)
    (path : Option String) :
    (load tree (env.filter keep) path).map (·.options.get? key) =
      (load tree env path).map (·.options.get? key) := by
  obtain ⟨e, hload, hload'⟩ | ⟨level, format, t, hload, hload'⟩ :=
    load_of_layer_eq (Environment.layer_filter hpath) tree path
  · rw [hload, hload']
  · rw [hload, hload']
    simp only [Except.map, OptionTable.get?_insertAll, Environment.lookup_options_filter hoption]

/-- A variable that neither makes a setting nor sets an option might as well not be there. -/
theorem load_of_idle {name : String} (hpath : Variable.keyPath? name = none)
    (hoption : Variable.option? name = none) (before after : Environment) (value : String)
    (tree : FileTree) (path : Option String) :
    load tree (before ++ (name, value) :: after) path = load tree (before ++ after) path := by
  have hlayer : Environment.layer (before ++ (name, value) :: after) =
      Environment.layer (before ++ after) := by
    simp only [Environment.layer, List.filterMap_append, List.filterMap_cons, hpath,
      Option.map_none]
  have hoptions : Environment.options (before ++ (name, value) :: after) =
      Environment.options (before ++ after) := by
    simp only [Environment.options, List.filterMap_append, List.filterMap_cons, hoption,
      Option.map_none]
  rw [load, load, hlayer, hoptions]

/-- Two environments whose variables are the same but for some that set options. Either nothing is
loaded with either of them, for the same reason, or the configurations agree on everything but the
options that these variables stand for. A variable that names no option does nothing. -/
theorem load_keeps_options_apart {env env' : Environment} {names : List String}
    (hnames : ∀ name ∈ names, "cubegen__options__".toList <+: Text.lowerAscii name.toList)
    (henv : env.filter (·.1 ∉ names) = env'.filter (·.1 ∉ names)) (tree : FileTree)
    (path : Option String) :
    ((∃ e, load tree env path = .error e ∧ load tree env' path = .error e) ∨
      ∃ c c', load tree env path = .ok c ∧ load tree env' path = .ok c' ∧
        c.level = c'.level ∧ c.format = c'.format ∧
        ∀ key, (∀ name ∈ names, ∀ rest, Variable.Leaves name rest →
            Variable.optionKey? rest ≠ some key) →
          c.options.get? key = c'.options.get? key) ∧
    ∀ (before after : Environment) (name value : String),
      Text.lowerAscii (Text.trim name.toList) = "cubegen__options__".toList →
      load tree (before ++ (name, value) :: after) path = load tree (before ++ after) path := by
  constructor
  · have hpath (env : Environment) : Environment.layer (env.filter (·.1 ∉ names)) = env.layer := by
      refine Environment.layer_filter fun v _ hdrop => ?_
      exact Variable.keyPath?_of_optionsLead (hnames v.1 (by simpa using hdrop))
    have hlayer : env.layer = env'.layer := by rw [← hpath env, henv, hpath]
    rcases load_of_layer_eq hlayer tree path with hfails | ⟨level, format, t, hload, hload'⟩
    · exact .inl hfails
    refine .inr ⟨_, _, hload, hload', rfl, rfl, fun key hkey => ?_⟩
    have hlookup (env : Environment) :
        (Environment.options (env.filter (·.1 ∉ names))).reverse.lookup key =
          env.options.reverse.lookup key := by
      refine Environment.lookup_options_filter fun v _ hdrop hoption => ?_
      obtain ⟨rest, hleaves, hrest⟩ := Variable.option?_eq_some.mp hoption
      exact hkey v.1 (by simpa using hdrop) rest hleaves hrest
    dsimp only
    rw [OptionTable.get?_insertAll, OptionTable.get?_insertAll, ← hlookup env, henv, hlookup]
  · intro before after name value hname
    exact load_of_idle (Variable.keyPath?_of_option (List.append_nil _).symm hname)
      (Variable.option?_of_nothing_left hname) before after value tree path

private def plainEnvironment : Environment :=
  [("CUBEGEN__OPTIONS__MODULE_VERSION", "1.0"), ("CUBEGEN__LOGGING__LEVEL", "debug")]

/-- The same with two more variables. Their values would not do for a level or for options. -/
private def crowdedEnvironment : Environment :=
  [("cubegen__Options__Logging__Level", "loud"), ("CUBEGEN__OPTIONS__MODULE_VERSION", "1.0"),
    ("CUBEGEN__LOGGING__LEVEL", "debug"), ("CUBEGEN__OPTIONS__", "[1]")]

private def crowd : List String := ["cubegen__Options__Logging__Level", "CUBEGEN__OPTIONS__"]

/-- Another option keeps its value, and the log its level. -/
theorem load_keeps_options_apart_crowd :
    (∀ name ∈ crowd, "cubegen__options__".toList <+: Text.lowerAscii name.toList) ∧
    plainEnvironment.filter (·.1 ∉ crowd) = crowdedEnvironment.filter (·.1 ∉ crowd) ∧
    ∃ c c', load (.inside ["work"]) plainEnvironment none = .ok c ∧
      load (.inside ["work"]) crowdedEnvironment none = .ok c' ∧ c.level = c'.level ∧
      c.options.get? "cubeengine.module.version" = c'.options.get? "cubeengine.module.version" := by
  have hnames : ∀ name ∈ crowd, "cubegen__options__".toList <+: Text.lowerAscii name.toList := by
    decide
  have henv : plainEnvironment.filter (·.1 ∉ crowd) = crowdedEnvironment.filter (·.1 ∉ crowd) := by
    decide
  have hother : ∀ name ∈ crowd, Variable.option? name ≠ some "cubeengine.module.version" := by
    decide +kernel
  have hloads : (load (.inside ["work"]) plainEnvironment none).isOk = true := by decide +kernel
  obtain ⟨hsame, -⟩ := load_keeps_options_apart hnames henv (.inside ["work"]) none
  rcases hsame with ⟨e, herror, -⟩ | ⟨c, c', hload, hload', hlevel, -, hoptions⟩
  · rw [herror] at hloads
    cases hloads
  · refine ⟨hnames, henv, c, c', hload, hload', hlevel, hoptions _ ?_⟩
    intro name hname rest hleaves hkey
    exact hother name hname (Variable.option?_eq_some.mpr ⟨rest, hleaves, hkey⟩)

end Config

end PluginWrapper
