import PluginWrapper.Proofs.Descriptor
import PluginWrapper.Proofs.Wrapper.Source
import PluginWrapper.Round

/-! What the kind of a declaration changes in its wrapper. The source is put together from parts,
and of those only the import of the loader library and the dependencies know about the kind. -/
namespace PluginWrapper.Wrapper

def importLines (names : List String) : List String :=
  names.map fun name => "import " ++ name ++ ";"

/-- The lines up to the imports that every wrapper begins with. -/
def opening (d : Declaration) : String :=
  unlines (["package " ++ d.package ++ ";", ""] ++ importLines commonImports)

/-- From the other imports to the brace before the dependencies. -/
def middle (d : Declaration) (e : Descriptor) : String :=
  unlines (importLines ["org.spongepowered.api.Sponge", d.qualifiedName] ++ [""] ++
    (annotationLines e).take 6) ++ "        dependencies = \x7b"

/-- From the brace behind the dependencies to the end. -/
def closing (d : Declaration) (e : Descriptor) : String :=
  "\x7d)\n" ++ unlines (classBody d e)

private theorem source_eq_parts (d : Declaration) (e : Descriptor) :
    source d e = opening d ++ unlines (importLines (loaderImport e.kind)) ++ middle d e ++
      Dependency.annotations e.dependencies ++ closing d e := by
  have hfront : front d e = ["package " ++ d.package ++ ";", ""] ++ importLines commonImports ++
      importLines (loaderImport e.kind) ++
      (importLines ["org.spongepowered.api.Sponge", d.qualifiedName] ++ [""] ++
        (annotationLines e).take 6) := by
    simp only [front, header, imports, importLines, List.map_append, List.append_assoc]
  have hend : "\x7d" ++ (")\n" ++ unlines (classBody d e)) = closing d e := by
    rw [closing, ← String.append_assoc]
    rfl
  rw [source_eq, hend, hfront, unlines_append, unlines_append, ← opening, middle]
  simp only [String.append_assoc]

/-- A module and a core with the same name, package, dependencies and options have the same wrapper,
but that the module imports the loader library and depends on the core. They also share the names of
their artifacts. -/
theorem module_and_core (name package : String) (dependencies : List Dependency)
    (options : OptionTable) :
    let m : Declaration := ⟨name, package, .module, dependencies⟩
    let c : Declaration := ⟨name, package, .core, dependencies⟩
    let onCore : Dependency := ⟨"cubeengine-core",
      options.resolve "cubeengine.module.libcube.version" "unknown", false⟩
    let declared := Dependency.annotations dependencies
    let separator := if 0 < dependencies.length then ",\n" else ""
    ∃ before between behind,
      source m (.resolve m options) = before ++ "import org.cubeengine.libcube.LibCube;\n" ++
        between ++ declared ++ separator ++ onCore.annotation ++ behind ∧
      source c (.resolve c options) = before ++ between ++ declared ++ behind ∧
      before = unlines ["package " ++ package ++ ";", "", "import javax.inject.Inject;",
        "import com.google.inject.Injector;", "import org.spongepowered.api.plugin.Plugin;",
        "import org.spongepowered.api.plugin.Dependency;",
        "import org.cubeengine.libcube.CubeEnginePlugin;"] ∧
      (∃ text, between = text ++ "        dependencies = \x7b") ∧
      (∃ text, behind = "\x7d)\n" ++ text) ∧
      Round.artifactNames (.resolve m options) = Round.artifactNames (.resolve c options) := by
  intro m c onCore declared separator
  have hmiddle : middle m (.resolve m options) = middle c (.resolve c options) := rfl
  have hclosing : closing m (.resolve m options) = closing c (.resolve c options) := rfl
  refine ⟨opening c, middle c (.resolve c options), closing c (.resolve c options), ?_, ?_, ?_,
    ⟨_, rfl⟩, ⟨_, rfl⟩, rfl⟩
  · have hkind : (Descriptor.resolve m options).kind = .module := rfl
    have hloader : unlines (importLines (loaderImport .module)) =
        "import org.cubeengine.libcube.LibCube;\n" := by decide
    have hopening : opening m = opening c := rfl
    have hdependencies : Dependency.annotations (Descriptor.resolve m options).dependencies =
        declared ++ separator ++ onCore.annotation := by
      rw [Descriptor.dependencies_resolve_module rfl options]
      exact Dependency.annotations_concat dependencies onCore
    rw [source_eq_parts, hkind, hloader, hopening, hdependencies, hmiddle, hclosing]
    simp only [String.append_assoc]
  · have hkind : (Descriptor.resolve c options).kind = .core := rfl
    have hloader : unlines (importLines (loaderImport .core)) = "" := rfl
    rw [source_eq_parts, hkind, hloader, Descriptor.dependencies_resolve_core rfl options,
      String.append_empty]
  · have hcommon : importLines commonImports = ["import javax.inject.Inject;",
        "import com.google.inject.Injector;", "import org.spongepowered.api.plugin.Plugin;",
        "import org.spongepowered.api.plugin.Dependency;",
        "import org.cubeengine.libcube.CubeEnginePlugin;"] := by decide
    rw [opening, hcommon]
    rfl

end PluginWrapper.Wrapper
