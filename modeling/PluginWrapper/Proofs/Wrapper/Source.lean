import PluginWrapper.Proofs.Wrapper.Annotations
import PluginWrapper.Proofs.Wrapper.Lines

/-! The source of a wrapper shows everything that it was made from: values without quotes and line
feeds can be told from it. -/
namespace PluginWrapper.Wrapper

/-- The texts that stand in the source of the wrapper of `d`, described by `e`. -/
def values (d : Declaration) (e : Descriptor) : List String :=
  [d.package, d.name, e.names.className, e.names.constantStem, e.names.pluginId,
    e.names.displayName, e.version, e.description, e.url, e.authors, e.revision] ++
  e.dependencies.flatMap fun x => [x.id, x.version]

def front (d : Declaration) (e : Descriptor) : List String :=
  header d e ++ (annotationLines e).take 6

theorem source_eq (d : Declaration) (e : Descriptor) :
    source d e = unlines (front d e) ++ ("        dependencies = \x7b" ++
      (Dependency.annotations e.dependencies ++
        ("\x7d" ++ (")\n" ++ unlines (classBody d e))))) := by
  have hplugin : annotationLines e = (annotationLines e).take 6 ++
      ["        dependencies = \x7b" ++ Dependency.annotations e.dependencies ++ "\x7d)"] := rfl
  have hend (s : String) : "\x7d)" ++ ("\n" ++ s) = "\x7d" ++ (")\n" ++ s) := by
    simp [← String.toList_inj]
  rw [source, hplugin, ← List.append_assoc, unlines_append, unlines_append, front]
  simp only [unlines, String.append_empty, String.append_assoc, hend]

variable {d d' : Declaration} {e e' : Descriptor}

theorem isLine_of_values (h : ∀ v ∈ values d e, IsLine v) :
    ∀ line ∈ front d e ++ classBody d e, IsLine line := by
  simp only [values, List.forall_mem_append, List.forall_mem_cons] at h
  obtain ⟨⟨hpackage, hname, hclass, hstem, hid, hdisplay, hversion, hdescription, hurl, hauthors,
    hrevision, -⟩, -⟩ := h
  cases hkind : e.kind <;>
    simp_all [front, header, imports, commonImports, loaderImport, annotationLines, classBody,
      IsLine, Names.idConstant, Names.versionConstant, Declaration.qualifiedName]

private theorem isQuotable_of_values (h : ∀ v ∈ values d e, '"' ∉ v.toList) :
    ∀ x ∈ e.dependencies, x.IsQuotable := by
  intro x hx
  have hvalue (v : String) (hv : v ∈ [x.id, x.version]) : '"' ∉ v.toList :=
    h v (List.mem_append_right _ (List.mem_flatMap.mpr ⟨x, hx, hv⟩))
  exact ⟨hvalue x.id (by simp), hvalue x.version (by simp)⟩

/-- The eighth line is the import of the loader library or already the one that follows it, whatever
the import of the wrapped class is. -/
private theorem kind_of_front (h : (front d e).take 8 = (front d' e').take 8) :
    e.kind = e'.kind := by
  cases hkind : e.kind <;> cases hkind' : e'.kind <;>
    simp_all [front, header, imports, commonImports, loaderImport]

private theorem length_front (h : e.kind = e'.kind) :
    (front d e).length = (front d' e').length := by
  simp [front, header, imports, annotationLines, h]

private theorem parts_of_source (hlines : ∀ v ∈ values d e, IsLine v)
    (hlines' : ∀ v ∈ values d' e', IsLine v) (hquotes : ∀ x ∈ e.dependencies, x.IsQuotable)
    (hquotes' : ∀ x ∈ e'.dependencies, x.IsQuotable) (h : source d e = source d' e') :
    e.kind = e'.kind ∧ front d e = front d' e' ∧ e.dependencies = e'.dependencies ∧
      classBody d e = classBody d' e' := by
  obtain ⟨hfront, hbody⟩ := List.forall_mem_append.mp (isLine_of_values hlines)
  obtain ⟨hfront', hbody'⟩ := List.forall_mem_append.mp (isLine_of_values hlines')
  rw [source_eq, source_eq] at h
  -- The fronts are of one length only if the kinds agree, so the first lines come first.
  have hkind : e.kind = e'.kind := by
    have htake := h
    rw [← List.take_append_drop 8 (front d e), ← List.take_append_drop 8 (front d' e'),
      unlines_append, unlines_append, String.append_assoc, String.append_assoc] at htake
    obtain ⟨hfirst, -⟩ := unlines_append_inj (fun l hl => hfront l (List.mem_of_mem_take hl))
      (fun l hl => hfront' l (List.mem_of_mem_take hl)) (by simp [front, header, imports,
        commonImports, annotationLines]) htake
    exact kind_of_front hfirst
  obtain ⟨hfronts, hrest⟩ := unlines_append_inj hfront hfront' (length_front hkind) h
  rw [String.append_right_inj] at hrest
  obtain ⟨hdependencies, hafter⟩ := Dependency.annotations_append_inj hquotes hquotes' hrest
  rw [String.append_right_inj] at hafter
  exact ⟨hkind, hfronts, hdependencies, unlines_inj hbody hbody' rfl hafter⟩

/-- Wrappers have the same source just when the same values stand in them. -/
theorem source_eq_iff (d d' : Declaration) (e e' : Descriptor)
    (h : ∀ v ∈ values d e ++ values d' e', '"' ∉ v.toList ∧ '\n' ∉ v.toList) :
    source d e = source d' e' ↔
      d.package = d'.package ∧ d.name = d'.name ∧ e.kind = e'.kind ∧
      e.names.className = e'.names.className ∧ e.names.constantStem = e'.names.constantStem ∧
      e.names.pluginId = e'.names.pluginId ∧ e.names.displayName = e'.names.displayName ∧
      e.version = e'.version ∧ e.description = e'.description ∧ e.url = e'.url ∧
      e.authors = e'.authors ∧ e.revision = e'.revision ∧
      e.dependencies = e'.dependencies := by
  obtain ⟨hvalues, hvalues'⟩ := List.forall_mem_append.mp h
  constructor
  · intro hsource
    obtain ⟨hkind, hfront, hdependencies, hbody⟩ := parts_of_source (fun v hv => (hvalues v hv).2)
      (fun v hv => (hvalues' v hv).2) (isQuotable_of_values fun v hv => (hvalues v hv).1)
      (isQuotable_of_values fun v hv => (hvalues' v hv).1) hsource
    simp only [classBody, Names.idConstant, Names.versionConstant, List.cons.injEq,
      String.append_left_inj, String.append_right_inj, true_and, and_true] at hbody
    obtain ⟨hclass, hid, hversion, -, hname, hrevision⟩ := hbody
    simp only [front, header, imports, annotationLines, hkind, hclass, Names.idConstant,
      Names.versionConstant, List.append_assoc, List.map_append, List.map_cons, List.map_nil,
      List.cons_append, List.nil_append, List.append_cancel_left_eq, List.take_succ_cons,
      List.take_zero, List.cons.injEq, String.append_left_inj, String.append_right_inj,
      String.reduceAppend, and_true, true_and] at hfront
    obtain ⟨hpackage, -, hstem, hdisplay, -, hdescription, hurl, hauthors⟩ := hfront
    simp only [hstem, String.append_right_inj] at hid hversion
    exact ⟨hpackage, hname, hkind, hclass, hstem, hid, hdisplay, hversion, hdescription, hurl,
      hauthors, hrevision, hdependencies⟩
  · rintro ⟨hpackage, hname, hkind, hclass, hstem, hid, hdisplay, hversion, hdescription, hurl,
      hauthors, hrevision, hdependencies⟩
    simp only [source, header, annotationLines, classBody, Declaration.qualifiedName,
      Names.idConstant, Names.versionConstant, *]

/-- The import of the loader library cannot be taken for that of a core which is called so. -/
theorem source_ne_of_kind :
    let d : Declaration := ⟨"LibCube", "org.cubeengine.libcube", .module, []⟩
    let e : Descriptor := .resolve d .empty
    (∀ v ∈ values d e ++ values d { e with kind := .core }, '"' ∉ v.toList ∧ '\n' ∉ v.toList) ∧
      source d e ≠ source d { e with kind := .core } := by
  intro d e
  have h : ∀ v ∈ values d e ++ values d { e with kind := .core },
      '"' ∉ v.toList ∧ '\n' ∉ v.toList := by decide +kernel
  refine ⟨h, fun hsource => ?_⟩
  obtain ⟨-, -, hkind, -⟩ := (source_eq_iff d d e { e with kind := .core } h).mp hsource
  cases hkind

end PluginWrapper.Wrapper
