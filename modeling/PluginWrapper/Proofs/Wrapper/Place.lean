import PluginWrapper.Proofs.Wrapper.Source

/-! Where the source of a wrapper says that it belongs, read off its lines. Values that stay on one
line make no line that could be taken for another. -/
namespace PluginWrapper.Wrapper

def linesAt (lead text : String) : List String :=
  (lines text).filter fun line => lead.toList <+: line.toList

section Dependencies

private theorem prefix_append (lead s : String) : lead.toList <+: (lead ++ s).toList := by
  rw [String.toList_append]
  exact List.prefix_append _ _

private theorem isLine_of_dependency {x : Dependency} (h : IsLine x.id ∧ IsLine x.version) :
    IsLine x.annotation := by
  have hoptional : IsLine (if x.optional then "true" else "false") := by
    split <;> decide
  unfold Dependency.annotation
  simp only [isLine_append, h.1, h.2, hoptional]
  decide

private theorem begins_annotation (x : Dependency) (s : String) :
    "@Dependency(id = \"".toList <+: (x.annotation ++ s).toList := by
  unfold Dependency.annotation
  simp only [String.append_assoc]
  exact prefix_append _ _

/-- Every annotation begins a line of its own. -/
private theorem begins_of_mem_annotations {x : Dependency} {xs : List Dependency}
    (h : ∀ y ∈ x :: xs, IsLine y.id ∧ IsLine y.version) {line : String}
    (hline : line ∈ lines (Dependency.annotations (x :: xs) ++ "\x7d)")) :
    "@Dependency(id = \"".toList <+: line.toList := by
  have hx := isLine_of_dependency (h x List.mem_cons_self)
  induction xs generalizing x with
  | nil =>
    rw [Dependency.annotations_cons, Dependency.continuation, String.append_empty,
      lines_of_isLine (isLine_append.mpr ⟨hx, by decide⟩), List.mem_singleton] at hline
    rw [hline]
    exact begins_annotation x _
  | cons y xs ih =>
    have htext : Dependency.annotations (x :: y :: xs) ++ "\x7d)" =
        x.annotation ++ "," ++ "\n" ++ (Dependency.annotations (y :: xs) ++ "\x7d)") := by
      have hnext : Dependency.continuation (y :: xs) =
          "," ++ "\n" ++ Dependency.annotations (y :: xs) := rfl
      rw [Dependency.annotations_cons, hnext]
      simp only [String.append_assoc]
    rw [htext, lines_append_newline, lines_of_isLine (isLine_append.mpr ⟨hx, by decide⟩),
      List.mem_append, List.mem_singleton] at hline
    have hrest : ∀ z ∈ y :: xs, IsLine z.id ∧ IsLine z.version := fun z hz =>
      h z (List.mem_cons_of_mem x hz)
    rcases hline with rfl | hline
    · exact begins_annotation x _
    · exact ih hrest hline (isLine_of_dependency (hrest y List.mem_cons_self))

/-- The lines of the dependencies of a wrapper. -/
private theorem begins_of_mem_dependencies {xs : List Dependency}
    (h : ∀ x ∈ xs, IsLine x.id ∧ IsLine x.version) {line : String}
    (hline : line ∈ lines ("        dependencies = \x7b" ++ Dependency.annotations xs ++ "\x7d)")) :
    "        dependencies = \x7b".toList <+: line.toList ∨
      "@Dependency(id = \"".toList <+: line.toList := by
  obtain ⟨first, rest, hlines, happend⟩ := lines_append
    (a := "        dependencies = \x7b") (by decide) (Dependency.annotations xs ++ "\x7d)")
  rw [String.append_assoc, happend] at hline
  rcases List.mem_cons.mp hline with rfl | hline
  · exact .inl (prefix_append _ _)
  · cases xs with
    | nil =>
      have hone : lines (Dependency.annotations [] ++ "\x7d)") = ["\x7d)"] := rfl
      rw [hone] at hlines
      obtain ⟨-, rfl⟩ := List.cons.inj hlines
      cases hline
    | cons x xs =>
      exact .inr (begins_of_mem_annotations h (hlines ▸ List.mem_cons_of_mem first hline))

end Dependencies

variable {d : Declaration} {e : Descriptor}

private theorem lines_source (h : ∀ v ∈ values d e, IsLine v) :
    lines (source d e) = front d e ++
      lines ("        dependencies = \x7b" ++ Dependency.annotations e.dependencies ++ "\x7d)") ++
      (classBody d e ++ [""]) := by
  obtain ⟨hfront, hbody⟩ := List.forall_mem_append.mp (isLine_of_values h)
  have hplugin : annotationLines e = (annotationLines e).take 6 ++
      ["        dependencies = \x7b" ++ Dependency.annotations e.dependencies ++ "\x7d)"] := rfl
  rw [source, hplugin, ← List.append_assoc, ← front, lines_unlines, List.flatMap_append,
    List.flatMap_append, flatMap_lines hfront, flatMap_lines hbody, List.flatMap_singleton,
    List.append_assoc]

/-- The lines of the dependencies do not count where neither way that they begin agrees with the
lead. -/
private theorem linesAt_source (h : ∀ v ∈ values d e, IsLine v) {lead : String}
    (hdependencies : ¬ lead.toList <+: "        dependencies = \x7b".toList ∧
      ¬ "        dependencies = \x7b".toList <+: lead.toList)
    (hmarks : ¬ lead.toList <+: "@Dependency(id = \"".toList ∧
      ¬ "@Dependency(id = \"".toList <+: lead.toList) :
    linesAt lead (source d e) =
      (front d e ++ (classBody d e ++ [""])).filter fun line => lead.toList <+: line.toList := by
  have hlines : ∀ x ∈ e.dependencies, IsLine x.id ∧ IsLine x.version := by
    intro x hx
    have hvalue (v : String) (hv : v ∈ [x.id, x.version]) : IsLine v :=
      h v (List.mem_append_right _ (List.mem_flatMap.mpr ⟨x, hx, hv⟩))
    exact ⟨hvalue x.id (by simp), hvalue x.version (by simp)⟩
  have hnone : (lines ("        dependencies = \x7b" ++ Dependency.annotations e.dependencies ++
      "\x7d)")).filter (fun line => lead.toList <+: line.toList) = [] := by
    refine List.filter_eq_nil_iff.mpr fun line hline hlead => ?_
    have hpre := of_decide_eq_true hlead
    rcases begins_of_mem_dependencies hlines hline with hmark | hmark
    · exact (List.prefix_or_prefix_of_prefix hpre hmark).elim hdependencies.1 hdependencies.2
    · exact (List.prefix_or_prefix_of_prefix hpre hmark).elim hmarks.1 hmarks.2
  rw [linesAt, lines_source h, List.filter_append, List.filter_append, hnone, List.append_nil,
    ← List.filter_append]

theorem head?_lines_source (h : ∀ v ∈ values d e, IsLine v) :
    (lines (source d e)).head? = some ("package " ++ d.package ++ ";") := by
  rw [lines_source h]
  rfl

theorem linesAt_class (h : ∀ v ∈ values d e, IsLine v) :
    linesAt "public class " (source d e) =
      ["public class " ++ e.names.className ++ " extends CubeEnginePlugin"] := by
  rw [linesAt_source h (by decide) (by decide)]
  cases hkind : e.kind <;>
    simp [front, header, imports, commonImports, loaderImport, annotationLines, classBody, hkind]

theorem linesAt_super (h : ∀ v ∈ values d e, IsLine v) :
    linesAt "         super(" (source d e) = ["         super(" ++ d.name ++ ".class);"] := by
  rw [linesAt_source h (by decide) (by decide)]
  cases hkind : e.kind <;>
    simp [front, header, imports, commonImports, loaderImport, annotationLines, classBody, hkind]

/-- The wrapped class is imported last. -/
theorem linesAt_import (h : ∀ v ∈ values d e, IsLine v) :
    linesAt "import " (source d e) =
      (imports e.kind d.qualifiedName).map fun name => "import " ++ name ++ ";" := by
  rw [linesAt_source h (by decide) (by decide)]
  cases hkind : e.kind <;>
    simp [front, header, imports, commonImports, loaderImport, annotationLines, classBody, hkind]

end PluginWrapper.Wrapper
