import PluginWrapper.Descriptor
import PluginWrapper.Proofs.OptionTable

/-! What a descriptor takes from the options: the id, if one is given, and of seven others the value
or the fallback. Nothing else in a table has any effect on it. -/
namespace PluginWrapper

namespace OptionTable

/-- The options whose fallback is the same for every declaration, with that fallback. -/
def fallbacks : List (String × String) :=
  [("cubeengine.module.version", "unknown"), ("cubeengine.module.name", "unknown"),
    ("cubeengine.module.description", "unknown"), ("cubeengine.module.team", "unknown"),
    ("cubeengine.module.url", ""), ("cubeengine.module.sourceversion", "unknown"),
    ("cubeengine.module.libcube.version", "unknown")]

/-- The options that have an effect. -/
def effective : List String :=
  "cubeengine.module.id" :: fallbacks.map Prod.fst

/-- The tables give the same id, if any, and resolve the other options alike. -/
structure Agrees (options options' : OptionTable) : Prop where
  resolve : ∀ option ∈ fallbacks,
    options.resolve option.1 option.2 = options'.resolve option.1 option.2
  id : options.get? "cubeengine.module.id" = options'.get? "cubeengine.module.id"

variable {options options' : OptionTable} {key value : String}

theorem effective_subset_supported : effective ⊆ OptionKey.supported := by decide

private theorem Agrees.metadata (h : Agrees options options') (name : String) :
    options.metadata name = options'.metadata name := by
  have hresolve := h.resolve
  simp only [fallbacks, List.forall_mem_cons] at hresolve
  obtain ⟨hversion, hname, hdescription, hteam, hurl, hrevision, hloader, -⟩ := hresolve
  rw [OptionTable.metadata, OptionTable.metadata, Metadata.mk.injEq]
  exact ⟨hversion, resolve_congr h.id _, hname, hdescription, hteam, hurl, hrevision, hloader⟩

theorem Agrees.of_get? (h : ∀ key ∈ effective, options.get? key = options'.get? key) :
    Agrees options options' where
  resolve option hoption :=
    resolve_congr (h option.1 (List.mem_cons_of_mem _ (List.mem_map_of_mem hoption))) _
  id := h _ List.mem_cons_self

/-- One more entry makes no difference if its option resolves as before. -/
private theorem agrees_insert {option : String × String} (hoption : option ∈ fallbacks)
    (h : (options.insert option.1 value).resolve option.1 option.2 =
      options.resolve option.1 option.2) : Agrees (options.insert option.1 value) options := by
  have hnodup : effective.Nodup := by decide
  obtain ⟨hid, hfallbacks⟩ := List.nodup_cons.mp hnodup
  refine ⟨fun other hother => ?_, get?_insert_of_ne fun hkey => ?_⟩
  · by_cases hkey : option.1 = other.1
    · -- An option has one fallback.
      rw [← List.inj_on_of_nodup_map hfallbacks hoption hother hkey]
      exact h
    · exact resolve_congr (get?_insert_of_ne hkey) _
  · exact hid (hkey ▸ List.mem_map_of_mem hoption)

theorem agrees_insert_fallback {option : String × String} (hoption : option ∈ fallbacks)
    (hnone : options.get? option.1 = none) :
    Agrees (options.insert option.1 option.2) options := by
  refine agrees_insert hoption ?_
  have hvalue : ∀ option ∈ fallbacks, option.2 ≠ revisionPlaceholder := by decide
  rw [resolve_of_get?_none hnone, resolve_insert_self,
    if_neg fun hboth => hvalue option hoption hboth.2]

theorem agrees_insert_placeholder
    (hnone : options.get? "cubeengine.module.sourceversion" = none) :
    Agrees (options.insert "cubeengine.module.sourceversion" revisionPlaceholder) options := by
  have hoption : ("cubeengine.module.sourceversion", "unknown") ∈ fallbacks := by decide
  refine agrees_insert hoption ?_
  rw [resolve_of_get?_none hnone, resolve_insert_self, if_pos ⟨rfl, rfl⟩]
  rfl

end OptionTable

namespace Descriptor
variable {options options' : OptionTable} {d : Declaration}

theorem resolve_congr (h : options.Agrees options') (d : Declaration) :
    resolve d options = resolve d options' := by
  rw [resolve, resolve, h.metadata]

theorem dependencies_resolve_module (h : d.kind = .module) (options : OptionTable) :
    (resolve d options).dependencies = d.dependencies ++ [⟨"cubeengine-core",
      options.resolve "cubeengine.module.libcube.version" "unknown", false⟩] := by
  have hcomplete : (resolve d options).dependencies =
      Dependency.complete d.dependencies d.kind options.loaderVersion := rfl
  rw [hcomplete, h]
  rfl

theorem dependencies_resolve_core (h : d.kind = .core) (options : OptionTable) :
    (resolve d options).dependencies = d.dependencies := by
  have hcomplete : (resolve d options).dependencies =
      Dependency.complete d.dependencies d.kind options.loaderVersion := rfl
  rw [hcomplete, h]
  rfl

end Descriptor

end PluginWrapper
