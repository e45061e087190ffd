import PluginWrapper.Proofs.Java.Name
import PluginWrapper.Proofs.Java.Template
import PluginWrapper.Proofs.OptionTable
import PluginWrapper.Proofs.Wrapper.Lines

/-! Lexing the source of a wrapper class. Plain values and proper names leave every token of the
template where it is. -/
namespace PluginWrapper.Java
open Wrapper

private theorem reads_nothing : Reads .between (unlines []) [] .between := rfl

/-- A line that leaves nothing open. -/
private theorem Reads.line {line : String} {rest : List String} {ts us : List Token}
    (h : Reads .between line ts .between) (hrest : Reads .between (unlines rest) us .between) :
    Reads .between (unlines (line :: rest)) (ts ++ us) .between := by
  have hfeed : Reads .between (line ++ "\n") (ts ++ []) .between := h.append rfl
  simpa [unlines] using hfeed.append hrest

private theorem Reads.blankLine {rest : List String} {ts : List Token}
    (h : Reads .between (unlines rest) ts .between) :
    Reads .between (unlines ("" :: rest)) ts .between := by
  have hempty : Reads .between "" [] .between := rfl
  exact hempty.line h

private theorem opens_join (pieces : List (List Char)) (hne : pieces ≠ [])
    (h : ∀ piece ∈ pieces, isName piece) :
    Opens (String.ofList (Text.join '.' pieces)) (dotted (pieces.map String.ofList)) := by
  induction pieces with
  | nil => exact absurd rfl hne
  | cons piece rest ih =>
    have hpiece : Opens (String.ofList piece) [.name (String.ofList piece)] :=
      opens_name (by simpa using h piece (by simp))
    cases rest with
    | nil => exact hpiece
    | cons next rest =>
      have htext : String.ofList (Text.join '.' (piece :: next :: rest)) =
          String.ofList piece ++ "." ++ String.ofList (Text.join '.' (next :: rest)) := by
        rw [← String.toList_inj]
        simp [Text.join]
      rw [htext]
      exact hpiece.dot (ih (by simp) fun x hx => h x (List.mem_cons_of_mem piece hx))

/-- Proper names, and values that can stand in a literal. -/
structure IsFit (d : Declaration) (options : OptionTable) : Prop where
  package : ∀ piece ∈ Text.split '.' d.package.toList, isName piece
  name : isName d.name.toList
  dependencies : ∀ x ∈ d.dependencies, IsPlain x.id ∧ IsPlain x.version
  options : ∀ key value, options.get? key = some value → IsPlain value

private theorem opens_dottedName {s : String}
    (h : ∀ piece ∈ Text.split '.' s.toList, isName piece) : Opens s (dottedName s) := by
  have hjoin := opens_join _ (Text.split_ne_nil '.' s.toList) h
  rwa [Text.join_split, String.ofList_toList] at hjoin

private theorem reads_import {path : String} {ts : List Token} (h : Opens path ts) :
    Reads .between ("import " ++ path ++ ";") (importOf ts) .between := by
  have himport : Reads .between "import " [.name "import"] .between := rfl
  exact (himport.opens h).append (by decide +kernel)

private theorem reads_libraries (paths : List String)
    (h : ∀ path ∈ paths, ∀ piece ∈ Text.split '.' path.toList, isName piece) :
    Reads .between (unlines (paths.map fun path => "import " ++ path ++ ";"))
      (paths.flatMap fun path => importOf (dottedName path)) .between := by
  induction paths with
  | nil => exact reads_nothing
  | cons path paths ih =>
    exact (reads_import (opens_dottedName (h path (by simp)))).line
      (ih fun p hp => h p (List.mem_cons_of_mem path hp))

private theorem libraries_named (kind : Kind) :
    ∀ path ∈ libraries kind, ∀ piece ∈ Text.split '.' path.toList, isName piece := by
  cases kind <;> decide +kernel

private theorem imports_eq (kind : Kind) (wrapped : String) :
    imports kind wrapped = libraries kind ++ [wrapped] := by
  cases kind <;> rfl

private theorem resolve_eq (d : Declaration) (options : OptionTable) :
    Descriptor.resolve d options = {
      kind := d.kind
      package := d.package
      simpleName := d.name
      names := ⟨"Plugin" ++ d.name, Text.upper d.name, "cubeengine-" ++ options.id d.name,
        "CubeEngine - " ++ options.name⟩
      version := options.version
      description := options.description
      url := options.url
      authors := options.team ++ " Team"
      revision := options.revision
      dependencies := d.requirements options } := by
  obtain ⟨name, package, kind, dependencies⟩ := d
  cases kind <;> rfl

section Lines
variable {d : Declaration} {options : OptionTable}

private theorem reads_head (h : IsFit d options) :
    Reads .between (unlines (header d (.resolve d options))) d.headTokens .between := by
  have hopens := opens_dottedName h.package
  have hstart : Reads .between "package " [.name "package"] .between := by decide +kernel
  have hpackage : Reads .between ("package " ++ d.package ++ ";")
      ([.name "package"] ++ dottedName d.package ++ [.mark ';']) .between :=
    (hstart.opens hopens).append (by decide +kernel)
  have hwrapped := (reads_import (hopens.dot (opens_name h.name))).line reads_nothing
  have himports := (reads_libraries _ (libraries_named d.kind)).append hwrapped
  have hlines := ((hpackage.line reads_nothing.blankLine).append himports).append
    reads_nothing.blankLine
  rw [header, imports_eq, resolve_eq, unlines_append, unlines_append, List.map_append,
    unlines_append]
  simpa only [Declaration.headTokens, Declaration.qualifiedName, List.map_cons, List.map_nil,
    List.append_nil, List.append_assoc] using hlines

private theorem isName_class (h : IsFit d options) : isName ("Plugin" ++ d.name).toList := by
  rw [String.toList_append]
  exact isName_append (by decide +kernel) (List.all_eq_true.mpr (isNamePart_of_isName h.name))

private theorem isName_constant (h : IsFit d options) (ending : String)
    (hending : ending.toList.all isNamePart) :
    isName (Text.upper d.name ++ ending).toList := by
  rw [String.toList_append]
  exact isName_append (isName_upper h.name) hending

private theorem plain_resolve (h : IsFit d options) (key : String) {fallback : String}
    (hfallback : IsPlain fallback) : IsPlain (options.resolve key fallback) :=
  OptionTable.resolve_of_forall h.options (by decide +kernel) hfallback key

private theorem plain_resolve_unknown (h : IsFit d options) (key : String) :
    IsPlain (options.resolve key unknown) :=
  plain_resolve h key (by decide +kernel)

private theorem plain_requirements (h : IsFit d options) :
    ∀ x ∈ d.requirements options, IsPlain x.id ∧ IsPlain x.version := by
  intro x hx
  rw [Declaration.requirements] at hx
  split at hx
  · rcases List.mem_append.mp hx with hx | hx
    · exact h.dependencies x hx
    · obtain rfl := List.mem_singleton.mp hx
      have hcore : IsPlain "cubeengine-core" := by decide +kernel
      exact ⟨hcore, plain_resolve_unknown h _⟩
  · exact h.dependencies x hx

private theorem annotation_eq (x : Dependency) :
    x.annotation = "@Dependency(id = \"" ++ x.id ++ "\", version = \"" ++ x.version ++
      "\", optional = " ++ (if x.optional then "true" else "false") ++ ")" := rfl

private theorem reads_dependency {x : Dependency} (hid : IsPlain x.id)
    (hversion : IsPlain x.version) :
    Reads .between x.annotation (dependencyTokens x) .between := by
  have hstart : Reads .between "@Dependency(id = \""
      ([.mark '@', .name "Dependency", .mark '('] ++ [.name "id", .mark '=']) (.literal []) := by
    decide +kernel
  have hbefore : Reads .between ("@Dependency(id = \"" ++ x.id ++ "\", version = \"")
      (_ ++ .literal x.id :: [.mark ',', .name "version", .mark '=']) (.literal []) :=
    hstart.value hid (by decide +kernel)
  have hafter : Reads .between (_ ++ x.version ++ "\", optional = ")
      (_ ++ .literal x.version :: [.mark ',', .name "optional", .mark '=']) .between :=
    hbefore.value hversion (by decide +kernel)
  have hoptional (b : Bool) : Reads .between ((if b then "true" else "false") ++ ")")
      [.name (if b then "true" else "false"), .mark ')'] .between := by
    cases b <;> decide +kernel
  have h := hafter.append (hoptional x.optional)
  simpa [annotation_eq, dependencyTokens, pair, String.append_assoc] using h

private theorem reads_dependencies (xs : List Dependency)
    (h : ∀ x ∈ xs, IsPlain x.id ∧ IsPlain x.version) :
    Reads .between (Dependency.annotations xs) ([.mark ','].intercalate (xs.map dependencyTokens))
      .between := by
  induction xs with
  | nil => exact reads_nothing
  | cons x xs ih =>
    have hx := reads_dependency (h x (by simp)).1 (h x (by simp)).2
    cases xs with
    | nil => simpa [Dependency.annotations] using hx
    | cons next xs =>
      have hcomma : Reads .between ",\n" [.mark ','] .between := rfl
      have hrest := ih fun y hy => h y (List.mem_cons_of_mem x hy)
      simpa [Dependency.annotations, String.intercalate_cons_cons] using
        (hx.append hcomma).append hrest

private theorem reads_literalPair (start : String) (ts : List Token) {v : String} (hv : IsPlain v)
    (hstart : Reads .between start ts (.literal [])) :
    Reads .between (start ++ v ++ "\",") (ts ++ [.literal v, .mark ',']) .between :=
  hstart.value hv (by decide +kernel)

private theorem reads_pluginLines (h : IsFit d options) :
    Reads .between (unlines (annotationLines (.resolve d options)))
      (d.annotationTokens options) .between := by
  have hclass := opens_name (isName_class h)
  have hidName := opens_name (isName_constant h "_ID" (by decide +kernel))
  have hversionName := opens_name (isName_constant h "_VERSION" (by decide +kernel))
  have hidStart : Reads .between "@Plugin(id = "
      [.mark '@', .name "Plugin", .mark '(', .name "id", .mark '='] .between := by decide +kernel
  have hid : Reads .between (_ ++ ",") (_ ++ [.mark ',']) .between :=
    ((hidStart.opens hclass).dot hidName).append (by decide +kernel)
  have hdisplay : IsPlain ("CubeEngine - " ++ options.name) :=
    IsPlain.append (by decide +kernel) (plain_resolve_unknown h _)
  have hname := reads_literalPair "        name = \"" [.name "name", .mark '='] hdisplay
    (by decide +kernel)
  have hversionStart : Reads .between "        version = " [.name "version", .mark '=']
      .between := by decide +kernel
  have hversion : Reads .between (_ ++ ",") (_ ++ [.mark ',']) .between :=
    ((hversionStart.opens hclass).dot hversionName).append (by decide +kernel)
  have hdescription := reads_literalPair "        description = \"" [.name "description", .mark '=']
    (plain_resolve_unknown h OptionKey.description) (by decide +kernel)
  have hempty : IsPlain "" := by decide
  have hurl := reads_literalPair "        url = \"" [.name "url", .mark '=']
    (plain_resolve h OptionKey.url hempty) (by decide +kernel)
  have hteam : IsPlain (options.team ++ " Team") :=
    (plain_resolve_unknown h _).append (by decide +kernel)
  have hauthors := reads_literalPair "        authors = \"" [.name "authors", .mark '='] hteam
    (by decide +kernel)
  have hopen : Reads .between "        dependencies = \x7b"
      [.name "dependencies", .mark '=', .mark '{'] .between := by decide +kernel
  have hclose : Reads .between "\x7d)" [.mark '}', .mark ')'] .between := by decide +kernel
  have hdependencies :=
    (hopen.append (reads_dependencies _ (plain_requirements h))).append hclose
  have hlines := hid.line (hname.line (hversion.line (hdescription.line (hurl.line
    (hauthors.line (hdependencies.line reads_nothing))))))
  rw [resolve_eq]
  simpa [annotationLines, Names.idConstant, Names.versionConstant, Declaration.annotationTokens,
    pair, OptionTable.description, OptionTable.url] using hlines

private theorem reads_constant {name v : String} (hname : isName name.toList) (hv : IsPlain v) :
    Reads .between ("    public static final String " ++ name ++ " = \"" ++ v ++ "\";")
      (constantOf name v) .between := by
  have hstart : Reads .between "    public static final String "
      [.name "public", .name "static", .name "final", .name "String"] .between := by decide +kernel
  have hbefore : Reads .between (_ ++ " = \"") (_ ++ [.mark '=']) (.literal []) :=
    (hstart.opens (opens_name hname)).append (by decide +kernel)
  have h : Reads .between (_ ++ v ++ "\";") (_ ++ .literal v :: [.mark ';']) .between :=
    hbefore.value hv (by decide +kernel)
  simpa [constantOf] using h

private theorem reads_classHead (h : IsFit d options) {rest : List String} {ts : List Token}
    (hrest : Reads .between (unlines rest) ts .between) :
    Reads .between
      (unlines (("public class " ++ ("Plugin" ++ d.name) ++ " extends CubeEnginePlugin") :: rest))
      ([.name "public", .name "class", .name ("Plugin" ++ d.name), .name "extends",
        .name "CubeEnginePlugin"] ++ ts) .between := by
  have hstart : Reads .between "public class " [.name "public", .name "class"] .between := by
    decide +kernel
  have hline : Reads .between (_ ++ " extends CubeEnginePlugin") (_ ++ [.name "extends"])
      (.word "CubeEnginePlugin".toList) :=
    (hstart.opens (opens_name (isName_class h))).append (by decide +kernel)
  have hfeed : Reads (.word "CubeEnginePlugin".toList) "\n" [.name "CubeEnginePlugin"]
      .between := by decide +kernel
  simpa [unlines] using (hline.append hfeed).append hrest

private theorem reads_classBody (h : IsFit d options) :
    Reads .between (unlines (classBody d (.resolve d options))) (d.classTokens options)
      .between := by
  have hopen : Reads .between "\x7b" [.mark '{'] .between := by decide +kernel
  have hopenMember : Reads .between "    \x7b" [.mark '{'] .between := by decide +kernel
  have hcloseMember : Reads .between "    \x7d" [.mark '}'] .between := by decide +kernel
  have hclose : Reads .between "\x7d" [.mark '}'] .between := by decide +kernel
  have hplainId : IsPlain ("cubeengine-" ++ options.id d.name) :=
    IsPlain.append (by decide +kernel) (plain_resolve h _ (isPlain_lower h.name))
  have hid := reads_constant (isName_constant h "_ID" (by decide +kernel)) hplainId
  have hversion := reads_constant (isName_constant h "_VERSION" (by decide +kernel))
    (plain_resolve_unknown h OptionKey.version)
  have hpublic : Reads .between "    public " [.name "public"] .between := by decide +kernel
  have hconstructor : Reads .between (_ ++ "()") (_ ++ [.mark '(', .mark ')']) .between :=
    (hpublic.opens (opens_name (isName_class h))).append (by decide +kernel)
  have hsuper : Reads .between "         super(" [.name "super", .mark '('] .between := by
    decide +kernel
  have hcall : Reads .between (_ ++ ".class);")
      (_ ++ [.mark '.', .name "class", .mark ')', .mark ';']) .between :=
    (hsuper.opens (opens_name h.name)).append (by decide +kernel)
  have hmethod : Reads .between "    public String sourceVersion()"
      [.name "public", .name "String", .name "sourceVersion", .mark '(', .mark ')'] .between := by
    decide +kernel
  have hreturn : Reads .between "        return \"" [.name "return"] (.literal []) := by
    decide +kernel
  have hrevision : Reads .between (_ ++ _ ++ "\";") (_ ++ .literal _ :: [.mark ';']) .between :=
    hreturn.value (plain_resolve_unknown h OptionKey.revision) (by decide +kernel)
  have hlines := reads_classHead h (hopen.line (hid.line (hversion.line (Reads.blankLine
    (hconstructor.line (hopenMember.line (hcall.line (hcloseMember.line (Reads.blankLine
    (hmethod.line (hopenMember.line (hrevision.line (hcloseMember.line
    (hclose.line reads_nothing))))))))))))))
  rw [resolve_eq]
  simpa [classBody, Names.idConstant, Names.versionConstant, Declaration.classTokens,
    OptionTable.version, OptionTable.revision] using hlines

end Lines

private theorem reads_source {d : Declaration} {options : OptionTable} (h : IsFit d options) :
    Reads .between (source d (.resolve d options)) (d.wrapperTokens options) .between := by
  rw [source, unlines_append, unlines_append, Declaration.wrapperTokens]
  exact ((reads_head h).append (reads_pluginLines h)).append (reads_classBody h)

/-- A wrapper class has the tokens of the template, whatever its values are, and each value is the
whole content of one literal. -/
theorem lex_source (d : Declaration) (options : OptionTable) (h : IsFit d options) :
    lex (source d (.resolve d options)) = some (d.wrapperTokens options) ∧
    ("org.cubeengine.libcube.LibCube" ∈ libraries d.kind ↔ d.kind = .module) ∧
    (d.wrapperTokens options).filterMap Token.literal? =
      ["CubeEngine - " ++ options.name, options.description, options.url,
        options.team ++ " Team"] ++
      ((d.requirements options).flatMap fun x => [x.id, x.version]) ++
      ["cubeengine-" ++ options.id d.name, options.version, options.revision] := by
  refine ⟨(reads_source h).lex, ?_, ?_⟩
  · cases d.kind <;> decide
  · simp only [Declaration.wrapperTokens, List.filterMap_append, literals_head,
      literals_annotation, literals_class, List.nil_append]

private def travel : Declaration :=
  ⟨"Travel", "org.cubeengine.module.travel", .module, [⟨"vault", "[1.0,)", true⟩]⟩

private def travelOptions : OptionTable :=
  .ofList [(OptionKey.name, "Travel; // it's 100%"), (OptionKey.version, "2.1")]

private theorem isFit_travel : IsFit travel travelOptions where
  package := by decide +kernel
  name := by decide +kernel
  dependencies := by decide +kernel
  options key value h := by
    simp only [travelOptions, OptionTable.ofList, OptionTable.insertAll, List.foldl,
      OptionTable.get?_insert, OptionTable.get?_empty] at h
    split at h
    · obtain rfl := Option.some.inj h
      decide
    · split at h
      · obtain rfl := Option.some.inj h
        decide
      · cases h

theorem lex_source_travel :
    IsFit travel travelOptions ∧
    lex (source travel (.resolve travel travelOptions)) =
      some (travel.wrapperTokens travelOptions) ∧
    (travel.wrapperTokens travelOptions).filterMap Token.literal? =
      ["CubeEngine - Travel; // it's 100%", "unknown", "", "unknown Team", "vault", "[1.0,)",
        "cubeengine-core", "unknown", "cubeengine-travel", "2.1", "unknown"] := by
  obtain ⟨hlex, -, hliterals⟩ := lex_source travel travelOptions isFit_travel
  exact ⟨isFit_travel, hlex, hliterals.trans (by decide +kernel)⟩

end PluginWrapper.Java
