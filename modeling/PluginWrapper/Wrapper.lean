import PluginWrapper.Descriptor

/-!
The Java source of a wrapper class. Its shape is fixed and the values stand in it as they are, so
a value has to be fit for a string literal.
-/

namespace PluginWrapper

def Dependency.annotation (d : Dependency) : String :=
  "@Dependency(id = \"" ++ d.id ++ "\", version = \"" ++ d.version ++ "\", optional = " ++
    (if d.optional then "true" else "false") ++ ")"

def Dependency.annotations (ds : List Dependency) : String :=
  ",\n".intercalate (ds.map annotation)

namespace Wrapper

def unlines : List String → String
  | [] => ""
  | line :: rest => line ++ "\n" ++ unlines rest

def commonImports : List String :=
  ["javax.inject.Inject", "com.google.inject.Injector", "org.spongepowered.api.plugin.Plugin",
    "org.spongepowered.api.plugin.Dependency", "org.cubeengine.libcube.CubeEnginePlugin"]

def loaderImport : Kind → List String
  | .module => ["org.cubeengine.libcube.LibCube"]
  | .core => []

def imports (kind : Kind) (wrapped : String) : List String :=
  commonImports ++ loaderImport kind ++ ["org.spongepowered.api.Sponge", wrapped]

def header (d : Declaration) (e : Descriptor) : List String :=
  ["package " ++ d.package ++ ";", ""] ++
    (imports e.kind d.qualifiedName).map (fun name => "import " ++ name ++ ";") ++ [""]

def annotationLines (e : Descriptor) : List String :=
  ["@Plugin(id = " ++ e.names.className ++ "." ++ e.names.idConstant ++ ",",
    "        name = \"" ++ e.names.displayName ++ "\",",
    "        version = " ++ e.names.className ++ "." ++ e.names.versionConstant ++ ",",
    "        description = \"" ++ e.description ++ "\",",
    "        url = \"" ++ e.url ++ "\",",
    "        authors = \"" ++ e.authors ++ "\",",
    "        dependencies = \x7b" ++ Dependency.annotations e.dependencies ++ "\x7d)"]

def classBody (d : Declaration) (e : Descriptor) : List String :=
  ["public class " ++ e.names.className ++ " extends CubeEnginePlugin",
    "\x7b",
    "    public static final String " ++ e.names.idConstant ++ " = \"" ++ e.names.pluginId ++ "\";",
    "    public static final String " ++ e.names.versionConstant ++ " = \"" ++ e.version ++ "\";",
    "",
    "    public " ++ e.names.className ++ "()",
    "    \x7b",
    "         super(" ++ d.name ++ ".class);",
    "    \x7d",
    "",
    "    public String sourceVersion()",
    "    \x7b",
    "        return \"" ++ e.revision ++ "\";",
    "    \x7d",
    "\x7d"]

/-- The source of the wrapper of `d`, described by `e`. The package, the import of the wrapped class
and its use come from the declaration; everything else comes from the descriptor. -/
def source (d : Declaration) (e : Descriptor) : String :=
  unlines (header d e ++ annotationLines e ++ classBody d e)

end Wrapper

end PluginWrapper
