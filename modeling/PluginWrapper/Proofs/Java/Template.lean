import PluginWrapper.Descriptor
import PluginWrapper.Proofs.Java.Token

/-! The tokens of a wrapper class as its template has them, and the literals among them. -/
namespace PluginWrapper.Java

def dotted : List String → List Token
  | [] => []
  | [first] => [.name first]
  | first :: rest => .name first :: .mark '.' :: dotted rest

def dottedName (s : String) : List Token :=
  dotted ((Text.split '.' s.toList).map String.ofList)

def importOf (path : List Token) : List Token :=
  .name "import" :: path ++ [.mark ';']

def libraries (kind : Kind) : List String :=
  ["javax.inject.Inject", "com.google.inject.Injector", "org.spongepowered.api.plugin.Plugin",
    "org.spongepowered.api.plugin.Dependency", "org.cubeengine.libcube.CubeEnginePlugin"] ++
  (match kind with
    | .module => ["org.cubeengine.libcube.LibCube"]
    | .core => []) ++
  ["org.spongepowered.api.Sponge"]

def pair (key : String) (value : List Token) : List Token :=
  .name key :: .mark '=' :: value

def dependencyTokens (x : Dependency) : List Token :=
  [.mark '@', .name "Dependency", .mark '('] ++ pair "id" [.literal x.id] ++ [.mark ','] ++
    pair "version" [.literal x.version] ++ [.mark ','] ++
    pair "optional" [.name (if x.optional then "true" else "false")] ++ [.mark ')']

def constantOf (name value : String) : List Token :=
  [.name "public", .name "static", .name "final", .name "String", .name name, .mark '=',
    .literal value, .mark ';']

end PluginWrapper.Java

namespace PluginWrapper.Declaration
open Java

def requirements (d : Declaration) (options : OptionTable) : List Dependency :=
  match d.kind with
  | .module => d.dependencies ++ [⟨"cubeengine-core", options.loaderVersion, false⟩]
  | .core => d.dependencies

def headTokens (d : Declaration) : List Token :=
  [.name "package"] ++ dottedName d.package ++ [.mark ';'] ++
  (libraries d.kind).flatMap (fun path => importOf (dottedName path)) ++
  importOf (dottedName d.package ++ [.mark '.', .name d.name])

def annotationTokens (d : Declaration) (options : OptionTable) : List Token :=
  [.mark '@', .name "Plugin", .mark '('] ++
  pair "id" [.name ("Plugin" ++ d.name), .mark '.', .name (Text.upper d.name ++ "_ID")] ++
  [.mark ','] ++
  pair "name" [.literal ("CubeEngine - " ++ options.name)] ++ [.mark ','] ++
  pair "version" [.name ("Plugin" ++ d.name), .mark '.', .name (Text.upper d.name ++ "_VERSION")] ++
  [.mark ','] ++
  pair "description" [.literal options.description] ++ [.mark ','] ++
  pair "url" [.literal options.url] ++ [.mark ','] ++
  pair "authors" [.literal (options.team ++ " Team")] ++ [.mark ','] ++
  pair "dependencies" ([.mark '{'] ++
    [.mark ','].intercalate ((d.requirements options).map dependencyTokens) ++ [.mark '}']) ++
  [.mark ')']

def classTokens (d : Declaration) (options : OptionTable) : List Token :=
  [.name "public", .name "class", .name ("Plugin" ++ d.name), .name "extends",
    .name "CubeEnginePlugin", .mark '{'] ++
  constantOf (Text.upper d.name ++ "_ID") ("cubeengine-" ++ options.id d.name) ++
  constantOf (Text.upper d.name ++ "_VERSION") options.version ++
  [.name "public", .name ("Plugin" ++ d.name), .mark '(', .mark ')', .mark '{',
    .name "super", .mark '(', .name d.name, .mark '.', .name "class", .mark ')', .mark ';',
    .mark '}'] ++
  [.name "public", .name "String", .name "sourceVersion", .mark '(', .mark ')', .mark '{',
    .name "return", .literal options.revision, .mark ';', .mark '}', .mark '}']

def wrapperTokens (d : Declaration) (options : OptionTable) : List Token :=
  d.headTokens ++ d.annotationTokens options ++ d.classTokens options

end PluginWrapper.Declaration

namespace PluginWrapper.Java

private theorem literals_dotted (names : List String) :
    (dotted names).filterMap Token.literal? = [] := by
  induction names with
  | nil => rfl
  | cons first rest ih =>
    cases rest with
    | nil => rfl
    | cons next rest => simpa [dotted, Token.literal?] using ih

private theorem literals_dottedName (s : String) :
    (dottedName s).filterMap Token.literal? = [] :=
  literals_dotted _

private theorem literals_importOf {path : List Token} (h : path.filterMap Token.literal? = []) :
    (importOf path).filterMap Token.literal? = [] := by
  rw [importOf, List.cons_append, List.filterMap_cons_none rfl, List.filterMap_append, h]
  rfl

private theorem literals_libraries (paths : List String) :
    (paths.flatMap fun path => importOf (dottedName path)).filterMap Token.literal? = [] := by
  induction paths with
  | nil => rfl
  | cons path paths ih =>
    rw [List.flatMap_cons, List.filterMap_append, ih, literals_importOf (literals_dottedName path)]
    rfl

theorem literals_head (d : Declaration) :
    d.headTokens.filterMap Token.literal? = [] := by
  have hwrapped : (dottedName d.package ++ [Token.mark '.', .name d.name]).filterMap
      Token.literal? = [] := by
    rw [List.filterMap_append, literals_dottedName]
    rfl
  rw [Declaration.headTokens, List.filterMap_append, List.filterMap_append, List.filterMap_append,
    List.filterMap_append, literals_libraries, literals_importOf hwrapped, literals_dottedName]
  rfl

private theorem literals_dependencies (xs : List Dependency) :
    ([.mark ','].intercalate (xs.map dependencyTokens)).filterMap Token.literal? =
      xs.flatMap fun x => [x.id, x.version] := by
  induction xs with
  | nil => rfl
  | cons x xs ih =>
    have hx : (dependencyTokens x).filterMap Token.literal? = [x.id, x.version] := rfl
    cases xs with
    | nil => simp [hx]
    | cons next xs =>
      rw [List.map_cons, List.map_cons, List.intercalate_cons_cons]
      simpa [hx, List.filterMap_cons, Token.literal?] using ih

theorem literals_annotation (d : Declaration) (options : OptionTable) :
    (d.annotationTokens options).filterMap Token.literal? =
      ["CubeEngine - " ++ options.name, options.description, options.url,
        options.team ++ " Team"] ++
      (d.requirements options).flatMap fun x => [x.id, x.version] := by
  simp [Declaration.annotationTokens, pair, List.filterMap_cons, Token.literal?,
    literals_dependencies]

theorem literals_class (d : Declaration) (options : OptionTable) :
    (d.classTokens options).filterMap Token.literal? =
      ["cubeengine-" ++ options.id d.name, options.version, options.revision] := rfl

end PluginWrapper.Java
