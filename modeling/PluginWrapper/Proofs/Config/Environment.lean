import PluginWrapper.Proofs.Config.Draft
import PluginWrapper.Proofs.Config.Variable

/-! Environments whose variables set the log and options, and nothing else that is understood. -/
namespace PluginWrapper

namespace Environment

/-- What an environment sets for the log and as options: the last level and the last format, and
every option in turn. -/
inductive Assigns :
    Environment → Option String → Option LogFormat → List (String × String) → Prop where
  | nil : Assigns [] none none []
  | other {name value : String} {env : Environment} {level : Option String}
      {format : Option LogFormat} {options : List (String × String)} :
    ¬ "cubegen__".toList <+: Variable.spelled name →
    Assigns env level format options → Assigns ((name, value) :: env) level format options
  | level {name value text : String} {v : Scalar} {env : Environment} {level : Option String}
      {format : Option LogFormat} {options : List (String × String)} :
    Variable.spelled name = "cubegen__logging__level".toList →
    Literal.read value = .scalar .environment v → v.Spells text →
    Assigns env level format options →
    Assigns ((name, value) :: env) (level.or (some text)) format options
  | format {name value : String} {f : LogFormat} {env : Environment} {level : Option String}
      {format : Option LogFormat} {options : List (String × String)} :
    Variable.spelled name = "cubegen__logging__format".toList →
    Literal.read value = .scalar .environment (.text f.text) →
    Assigns env level format options →
    Assigns ((name, value) :: env) level (format.or (some f)) options
  | option {name value key : String} {lead suffix : List Char} {env : Environment}
      {level : Option String} {format : Option LogFormat} {options : List (String × String)} :
    Text.trim name.toList = lead ++ suffix →
    Text.lowerAscii lead = "cubegen__options__".toList →
    suffix ≠ [] → '.' ∉ suffix → (∀ c ∈ suffix, Text.isBlank c = false) →
    Variable.optionKey? (String.ofList suffix) = some key →
    Assigns env level format options →
    Assigns ((name, value) :: env) level format ((key, value) :: options)

def logEntries (level : Option Scalar) (format : Option LogFormat) : List (String × Setting) :=
  (format.map fun f => ("format", Setting.scalar .environment (.text f.text))).toList ++
    (level.map fun v => ("level", Setting.scalar .environment v)).toList

def logged (level : Option Scalar) (format : Option LogFormat) : List (String × Setting) :=
  match logEntries level format with
  | [] => []
  | entries => [("logging", .table .environment entries)]

theorem logged_cases (level : Option Scalar) (format : Option LogFormat) :
    (level = none ∧ format = none) ∨
      logged level format = [("logging", .table .environment (logEntries level format))] := by
  cases level <;> cases format <;> simp [logged, logEntries]

theorem sorted_logEntries (level : Option Scalar) (format : Option LogFormat) :
    Setting.Sorted (logEntries level format) := by
  have hboth : ["format", "level"].Pairwise (· < ·) := by decide
  cases level <;> cases format
  case some.some => exact hboth
  all_goals simp [Setting.Sorted, logEntries]

theorem lookup_level_logEntries (level : Option Scalar) (format : Option LogFormat) :
    (logEntries level format).lookup "level" = level.map (.scalar .environment) := by
  cases level <;> cases format <;> simp [logEntries, lookup_cons_eq_ite]

theorem lookup_format_logEntries (level : Option Scalar) (format : Option LogFormat) :
    (logEntries level format).lookup "format" =
      (format.map fun f => .text f.text).map (.scalar .environment) := by
  cases level <;> cases format <;> simp [logEntries, lookup_cons_eq_ite]

private theorem overlay_level (level : Option Scalar) (format : Option LogFormat) (v : Scalar) :
    Setting.overlay (.table .environment (logged level format))
      (.nest .environment ["logging", "level"] (.scalar .environment v)) =
        .table .environment (logged (some v) format) := by
  have hlt : ¬ "level" < "format" := by decide
  cases level <;> cases format <;>
    simp [logged, logEntries, Setting.nest, Setting.overlay, Setting.overlayEntries,
      Setting.change, hlt]

private theorem overlay_format (level : Option Scalar) (format : Option LogFormat) (f : LogFormat) :
    Setting.overlay (.table .environment (logged level format))
      (.nest .environment ["logging", "format"] (.scalar .environment (.text f.text))) =
        .table .environment (logged level (some f)) := by
  have hlt : "format" < "level" := by decide
  cases level <;> cases format <;>
    simp [logged, logEntries, Setting.nest, Setting.overlay, Setting.overlayEntries,
      Setting.change, hlt]

/-- The layer of the variables, laid over what earlier ones have made. -/
def layerOver (below : Setting) (env : Environment) : Setting :=
  (env.filterMap fun (name, value) => (Variable.keyPath? name).map (·, value)).foldl
    (fun below (path, value) => below.overlay (Setting.nest .environment path (Literal.read value)))
    below

theorem layerOver_cons_none {name : String} (h : Variable.keyPath? name = none) (below : Setting)
    (value : String) (env : Environment) :
    layerOver below ((name, value) :: env) = layerOver below env := by
  simp [layerOver, h]

theorem layerOver_cons_some {name : String} {path : List String}
    (h : Variable.keyPath? name = some path) (below : Setting) (value : String)
    (env : Environment) : layerOver below ((name, value) :: env) =
      layerOver (below.overlay (.nest .environment path (Literal.read value))) env := by
  simp [layerOver, h]

/-- The variables for the log make the settings of the last level and the last format. -/
theorem layerOver_logged {env : Environment} {level : Option String} {format : Option LogFormat}
    {options : List (String × String)} (h : Assigns env level format options)
    (level₀ : Option Scalar) (format₀ : Option LogFormat) :
    ∃ v : Option Scalar, Option.Rel Scalar.Spells v level ∧
      layerOver (.table .environment (logged level₀ format₀)) env =
        .table .environment (logged (v.or level₀) (format.or format₀)) := by
  induction h generalizing level₀ format₀ with
  | nil => exact ⟨none, .none, rfl⟩
  | other hname _ ih =>
    rw [layerOver_cons_none (Variable.keyPath?_of_not_lead hname)]
    exact ih level₀ format₀
  | @level name value text v env level format options hname hread hspells _ ih =>
    obtain ⟨w, hw, hlayer⟩ := ih (some v) format₀
    have hspelled : Variable.spelled name =
      Text.lowerAscii Variable.lead.toList ++ "logging__level".toList := hname
    have hpath : Variable.keyPath? name = some ["logging", "level"] :=
      Variable.keyPath?_of_spelled hspelled (by decide)
    rw [layerOver_cons_some hpath, hread, overlay_level, hlayer]
    refine ⟨w.or (some v), ?_, ?_⟩
    · cases hw with
      | none => exact .some hspells
      | some hw => exact .some hw
    · cases w <;> rfl
  | @format name value f env level format options hname hread _ ih =>
    obtain ⟨w, hw, hlayer⟩ := ih level₀ (some f)
    have hspelled : Variable.spelled name =
      Text.lowerAscii Variable.lead.toList ++ "logging__format".toList := hname
    have hpath : Variable.keyPath? name = some ["logging", "format"] :=
      Variable.keyPath?_of_spelled hspelled (by decide)
    rw [layerOver_cons_some hpath, hread, overlay_format, hlayer]
    refine ⟨w, hw, ?_⟩
    cases format <;> rfl
  | option hname hlead _ _ _ _ _ ih =>
    rw [layerOver_cons_none (Variable.keyPath?_of_option hname hlead)]
    exact ih level₀ format₀

theorem layer_eq {env : Environment} {level : Option String} {format : Option LogFormat}
    {options : List (String × String)} (h : Assigns env level format options) :
    ∃ v : Option Scalar, Option.Rel Scalar.Spells v level ∧
      env.layer = .table .environment (logged v format) := by
  obtain ⟨v, hv, hlayer⟩ := layerOver_logged h none none
  rw [Option.or_none, Option.or_none] at hlayer
  exact ⟨v, hv, hlayer⟩

private theorem options_cons_none {name : String}
    (h : ¬ "cubegen__options__".toList <+: Variable.spelled name) (value : String)
    (env : Environment) : Environment.options ((name, value) :: env) = env.options := by
  simp [Environment.options, Variable.option?_of_not_lead h]

theorem options_eq {env : Environment} {level : Option String} {format : Option LogFormat}
    {options : List (String × String)} (h : Assigns env level format options) :
    env.options = options := by
  induction h with
  | nil => rfl
  | other hname _ ih =>
    have hlead : "cubegen__".toList <+: "cubegen__options__".toList := by decide
    rw [options_cons_none fun hoptions => hname (hlead.trans hoptions), ih]
  | level hname _ _ _ ih => rw [options_cons_none (by rw [hname]; decide), ih]
  | format hname _ _ ih => rw [options_cons_none (by rw [hname]; decide), ih]
  | option hname hlead hne hpoint hblank hkey _ ih =>
    have hoption := (Variable.option?_of_option hname hlead hne hpoint hblank).trans hkey
    simpa [Environment.options, hoption] using ih

end Environment

end PluginWrapper
