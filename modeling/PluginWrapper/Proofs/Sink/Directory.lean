import PluginWrapper.Proofs.FileTree.Create
import PluginWrapper.Proofs.Round.Artifacts
import PluginWrapper.Proofs.Sink.SourcePath

/-! Where a directory sink puts the two artifacts of a declaration: each has a route of its own,
and no route leads through another one's file. -/
namespace PluginWrapper

namespace Declaration

/-- A text that can name a directory. -/
structure IsSegment (piece : List Char) : Prop where
  ne_nil : piece ≠ []
  no_slash : '/' ∉ piece
  no_nul : '\x00' ∉ piece

instance (piece : List Char) : Decidable (IsSegment piece) :=
  decidable_of_iff (piece ≠ [] ∧ '/' ∉ piece ∧ '\x00' ∉ piece)
    ⟨fun ⟨hne, hslash, hnul⟩ => ⟨hne, hslash, hnul⟩, fun ⟨hne, hslash, hnul⟩ => ⟨hne, hslash, hnul⟩⟩

/-- The dots of a declaration part segments, and its id fits into one. -/
structure HasRoutes (options : OptionTable) (d : Declaration) : Prop where
  package : ∀ piece ∈ Text.split '.' d.package.toList, IsSegment piece
  name : ∀ piece ∈ Text.split '.' d.name.toList, IsSegment piece
  id_no_slash : '/' ∉ (options.id d.name).toList
  id_no_nul : '\x00' ∉ (options.id d.name).toList

instance (options : OptionTable) (d : Declaration) : Decidable (HasRoutes options d) :=
  decidable_of_iff ((∀ piece ∈ Text.split '.' d.package.toList, IsSegment piece) ∧
      (∀ piece ∈ Text.split '.' d.name.toList, IsSegment piece) ∧
      '/' ∉ (options.id d.name).toList ∧ '\x00' ∉ (options.id d.name).toList)
    ⟨fun ⟨hpackage, hname, hslash, hnul⟩ => ⟨hpackage, hname, hslash, hnul⟩,
      fun ⟨hpackage, hname, hslash, hnul⟩ => ⟨hpackage, hname, hslash, hnul⟩⟩

end Declaration

namespace Directory
open Declaration

theorem openSource_eq (root : List Char) (name : String) (t : FileTree) :
    (sink root).openSource name t = t.createFileWithParents (sourcePath root name) := by
  simp only [sink]

theorem openResource_eq (root : List Char) (package name : String) (t : FileTree) :
    (sink root).openResource package name t =
      t.createFileWithParents (resourcePath root package name) := by
  simp only [sink]

/-- All that is handed to the writer of an emptied file becomes its contents. -/
theorem writeBuffered_put (root : List Char) (t : FileTree) {here : Location} (hne : here ≠ [])
    (contents : Bytes) :
    (sink root).writeBuffered contents here (t.put here (.file [])) =
      (.ok (), t.put here (.file contents)) := by
  refine Sink.writeBuffered_of_write ?_ ?_ rfl
  · intro _
    simp [sink, FileTree.append_put _ hne]
  · intro h
    rw [h]

def asJavaFile (pieces : List (List Char)) : List (List Char) :=
  pieces.dropLast ++ [pieces.getLastD [] ++ ".java".toList]

/-- The names from the output root down to the file of a slot. -/
def route : Memory.Slot → List (List Char)
  | .source name => asJavaFile (Text.split '.' name.toList)
  | .resource path => Text.split '/' path.toList

private theorem descends_of_no_dot {piece : List Char} (h : IsSegment piece) (hdot : '.' ∉ piece) :
    Path.Descends piece where
  ne_nil := h.ne_nil
  no_slash := h.no_slash
  no_nul := h.no_nul
  ne_dot := by
    rintro rfl
    simp at hdot
  ne_dots := by
    rintro rfl
    simp at hdot

private theorem descends_javaFile {piece : List Char} (h : IsSegment piece) :
    Path.Descends (piece ++ ".java".toList) where
  ne_nil := by simp
  no_slash := by simp [h.no_slash]
  no_nul := by simp [h.no_nul]
  ne_dot := by
    intro heq
    have hlength := congrArg List.length heq
    simp at hlength
  ne_dots := by
    intro heq
    have hlength := congrArg List.length heq
    simp at hlength

/-- What the pieces of a source name are like. -/
structure SourcePieces (name : String) (directories : List (List Char)) (last : List Char) :
    Prop where
  split : Text.split '.' name.toList = directories ++ [last]
  ne_nil : directories ≠ []
  segments : ∀ piece ∈ directories ++ [last], IsSegment piece
  no_dot : ∀ piece ∈ directories ++ [last], '.' ∉ piece
  short : directories.length = 1 → last.head? = some 'P'

private theorem exists_sourcePieces {options : OptionTable} {d : Declaration}
    (h : HasRoutes options d) :
    ∃ directories last, SourcePieces d.sourceName directories last := by
  have hplugin : '.' ∉ "Plugin".toList := by decide
  obtain ⟨first, rest, hname, happend⟩ := Text.exists_split_append hplugin d.name.toList
  have htext : d.sourceName.toList =
      d.package.toList ++ '.' :: ("Plugin".toList ++ d.name.toList) := by
    simp [sourceName]
  have hsplit : Text.split '.' d.sourceName.toList =
      Text.split '.' d.package.toList ++ ("Plugin".toList ++ first) :: rest := by
    rw [htext, Text.split_append_cons, happend]
  have hfirst := h.name first (by simp [hname])
  have hsegments : ∀ piece ∈ Text.split '.' d.sourceName.toList, IsSegment piece := by
    rw [hsplit]
    intro piece hpiece
    rcases List.mem_append.mp hpiece with hpiece | hpiece
    · exact h.package piece hpiece
    · rcases List.mem_cons.mp hpiece with rfl | hpiece
      · exact ⟨by simp, by simp [hfirst.no_slash], by simp [hfirst.no_nul]⟩
      · exact h.name piece (by simp [hname, hpiece])
  have hne := Text.split_ne_nil '.' d.package.toList
  cases List.eq_nil_or_concat rest with
  | inl hrest =>
    subst hrest
    refine ⟨Text.split '.' d.package.toList, "Plugin".toList ++ first, hsplit, hne, ?_, ?_, ?_⟩
    · rwa [hsplit] at hsegments
    · rw [← hsplit]
      exact fun piece hpiece => Text.not_mem_of_mem_split hpiece
    · intro _
      rfl
  | inr hrest =>
    obtain ⟨middle, last, rfl⟩ := hrest
    have hconcat : Text.split '.' d.sourceName.toList =
        (Text.split '.' d.package.toList ++ ("Plugin".toList ++ first) :: middle) ++ [last] := by
      rw [hsplit]
      simp
    refine ⟨_, last, hconcat, by simp, ?_, ?_, ?_⟩
    · rwa [hconcat] at hsegments
    · rw [← hconcat]
      exact fun piece hpiece => Text.not_mem_of_mem_split hpiece
    · intro hlength
      have hpackage := List.length_pos_iff.mpr hne
      simp only [List.length_append, List.length_cons] at hlength
      omega

private theorem SourcePieces.route {name : String} {directories : List (List Char)}
    {last : List Char} (h : SourcePieces name directories last) :
    route (.source name) = directories ++ [last ++ ".java".toList] := by
  rw [Directory.route, asJavaFile, h.split, List.dropLast_concat, List.getLastD_concat]

private theorem route_resource {options : OptionTable} {d : Declaration} (h : HasRoutes options d) :
    route (.resource (d.resourceName options)) =
      ["assets".toList, (d.pluginId options).toList, "lang".toList, "en_us.lang".toList] := by
  have htext : (d.resourceName options).toList = "assets".toList ++ '/' ::
      ((d.pluginId options).toList ++ '/' :: ("lang".toList ++ '/' :: "en_us.lang".toList)) := by
    simp [resourceName]
  have hid : '/' ∉ (d.pluginId options).toList := by
    simp [pluginId, h.id_no_slash]
  rw [route, htext, Text.split_append_cons, Text.split_append_cons, Text.split_append_cons,
    Text.split_of_not_mem hid]
  rfl

/-- The slot belongs to a declaration whose artifacts have routes. -/
def IsArtifact (options : OptionTable) (slot : Memory.Slot) : Prop :=
  ∃ d, HasRoutes options d ∧
    (slot = .source d.sourceName ∨ slot = .resource (d.resourceName options))

/-- A route leads through directories to a file. -/
theorem exists_route {options : OptionTable} {slot : Memory.Slot} (h : IsArtifact options slot) :
    ∃ names name, route slot = names ++ [name] ∧ names ≠ [] := by
  obtain ⟨d, hd, rfl | rfl⟩ := h
  · obtain ⟨directories, last, hpieces⟩ := exists_sourcePieces hd
    exact ⟨directories, _, hpieces.route, hpieces.ne_nil⟩
  · exact ⟨["assets".toList, (d.pluginId options).toList, "lang".toList], "en_us.lang".toList,
      route_resource hd, by simp⟩

theorem descends_route {options : OptionTable} {slot : Memory.Slot} (h : IsArtifact options slot) :
    ∀ name ∈ route slot, Path.Descends name := by
  obtain ⟨d, hd, rfl | rfl⟩ := h
  · obtain ⟨directories, last, hpieces⟩ := exists_sourcePieces hd
    rw [hpieces.route]
    intro name hname
    rcases List.mem_append.mp hname with hname | hname
    · have hmem := List.mem_append_left [last] hname
      exact descends_of_no_dot (hpieces.segments name hmem) (hpieces.no_dot name hmem)
    · obtain rfl := List.mem_singleton.mp hname
      exact descends_javaFile (hpieces.segments last (by simp))
  · have hid : Path.Descends (d.pluginId options).toList := by
      refine ⟨by simp [pluginId], by simp [pluginId, hd.id_no_slash],
        by simp [pluginId, hd.id_no_nul], ?_, ?_⟩ <;> simp [pluginId]
    have hassets : Path.Descends "assets".toList := by constructor <;> decide
    have hlang : Path.Descends "lang".toList := by constructor <;> decide
    have hfile : Path.Descends "en_us.lang".toList := by constructor <;> decide
    rw [route_resource hd]
    simpa using And.intro hassets (And.intro hid (And.intro hlang hfile))

theorem sourcePath_eq {options : OptionTable} {d : Declaration} (h : HasRoutes options d)
    (root : List Char) :
    sourcePath root d.sourceName = Path.pushAll root (route (.source d.sourceName)) := by
  obtain ⟨directories, last, hpieces⟩ := exists_sourcePieces h
  have hempty : [] ∉ Text.split '.' d.sourceName.toList := by
    rw [hpieces.split]
    exact fun hmem => (hpieces.segments [] hmem).ne_nil rfl
  have hslash : '/' ∉ d.sourceName.toList := by
    intro hmem
    obtain ⟨piece, hpiece, hmem⟩ : ∃ piece ∈ Text.split '.' d.sourceName.toList, '/' ∈ piece :=
      Text.exists_mem_split hmem (by decide)
    exact (hpieces.segments piece (hpieces.split ▸ hpiece)).no_slash hmem
  rw [sourcePath_eq_pushAll hslash ((segments_eq_split hempty).trans hpieces.split), hpieces.route]

theorem resourcePath_eq {options : OptionTable} {d : Declaration} (h : HasRoutes options d)
    (root : List Char) :
    resourcePath root Round.resourcePackage (Round.languageResource (d.pluginId options)) =
      Path.pushAll root (route (.resource (d.resourceName options))) := by
  have hdescends := descends_route ⟨d, h, .inr rfl⟩
  rw [route_resource h] at hdescends ⊢
  have hassets := hdescends "assets".toList (by simp)
  have hid := hdescends (d.pluginId options).toList (by simp)
  have hlang := hdescends "lang".toList (by simp)
  have hfile := hdescends "en_us.lang".toList (by simp)
  have htext : (Round.languageResource (d.pluginId options)).toList =
      (d.pluginId options).toList ++ '/' :: ("lang".toList ++ '/' :: "en_us.lang".toList) := by
    simp [Round.languageResource]
  have hpackage : Path.pushAll root
      ((Text.split '.' Round.resourcePackage.toList).filter (· != [])) =
      Path.push root "assets".toList := rfl
  rw [resourcePath, hpackage, htext, Path.push_push hid.ne_nil hid.no_slash rfl,
    Path.push_push hlang.ne_nil hlang.no_slash (Path.isAbsolute_eq_false hfile.no_slash)]
  rfl

private theorem ne_javaFile {piece : List Char} (last : List Char)
    (h : piece.getLast? = some 'g') : piece ≠ last ++ ".java".toList := by
  rintro rfl
  rw [List.getLast?_append] at h
  simp at h

private theorem source_eq_of_prefix_route {name other : String}
    {directories directories' : List (List Char)} {last last' : List Char}
    (h : SourcePieces name directories last)
    (h' : SourcePieces other directories' last')
    (hpre : route (.source name) <+: route (.source other)) : name = other := by
  rw [h.route, h'.route] at hpre
  rcases List.prefix_concat_iff.mp hpre with heq | hpre
  · obtain ⟨rfl, hlast⟩ := List.append_inj' heq rfl
    obtain rfl := List.append_cancel_right (List.singleton_inj.mp hlast)
    exact String.toList_inj.mp (Text.split_inj (h.split.trans h'.split.symm))
  · have hmem : last ++ ".java".toList ∈ directories' := hpre.mem (by simp)
    exact absurd (by simp) (h'.no_dot _ (List.mem_append_left _ hmem))

private theorem not_source_prefix_resource {options : OptionTable} {d : Declaration}
    (hd : HasRoutes options d) {name : String} {directories : List (List Char)} {last : List Char}
    (h : SourcePieces name directories last) :
    ¬ route (.source name) <+: route (.resource (d.resourceName options)) := by
  intro hpre
  rw [h.route, route_resource hd] at hpre
  have hlang : "lang".toList ≠ last ++ ".java".toList := ne_javaFile last rfl
  have hfile : "en_us.lang".toList ≠ last ++ ".java".toList := ne_javaFile last rfl
  rcases directories with _ | ⟨_, _ | ⟨_, _ | ⟨_, _ | ⟨_, directories⟩⟩⟩⟩
  · exact h.ne_nil rfl
  · simp only [List.cons_append, List.nil_append, List.cons_prefix_cons] at hpre
    obtain ⟨rest, rfl⟩ := List.head?_eq_some_iff.mp (h.short rfl)
    have hhead := congrArg List.head? hpre.2.1
    simp [pluginId] at hhead
  · simp only [List.cons_append, List.nil_append, List.cons_prefix_cons] at hpre
    exact hlang hpre.2.2.1.symm
  · simp only [List.cons_append, List.nil_append, List.cons_prefix_cons] at hpre
    exact hfile hpre.2.2.2.1.symm
  · have hlength := hpre.length_le
    simp only [List.length_append, List.length_cons, List.length_nil] at hlength
    omega

private theorem not_resource_prefix_source {options : OptionTable} {d : Declaration}
    (hd : HasRoutes options d) {name : String} {directories : List (List Char)} {last : List Char}
    (h : SourcePieces name directories last) :
    ¬ route (.resource (d.resourceName options)) <+: route (.source name) := by
  intro hpre
  rw [h.route, route_resource hd] at hpre
  have hmem : "en_us.lang".toList ∈ directories ++ [last ++ ".java".toList] :=
    hpre.mem (by simp)
  rcases List.mem_append.mp hmem with hmem | hmem
  · exact absurd (by decide) (h.no_dot _ (List.mem_append_left _ hmem))
  · exact ne_javaFile last rfl (List.mem_singleton.mp hmem)

/-- No file stands on the way to another one. -/
theorem eq_of_prefix_route {options : OptionTable} {slot other : Memory.Slot}
    (h : IsArtifact options slot) (h' : IsArtifact options other)
    (hpre : route slot <+: route other) : slot = other := by
  obtain ⟨d, hd, rfl | rfl⟩ := h
  · obtain ⟨directories, last, hpieces⟩ := exists_sourcePieces hd
    obtain ⟨d', hd', rfl | rfl⟩ := h'
    · obtain ⟨directories', last', hpieces'⟩ := exists_sourcePieces hd'
      rw [source_eq_of_prefix_route hpieces hpieces' hpre]
    · exact absurd hpre (not_source_prefix_resource hd' hpieces)
  · obtain ⟨d', hd', rfl | rfl⟩ := h'
    · obtain ⟨directories', last', hpieces'⟩ := exists_sourcePieces hd'
      exact absurd hpre (not_resource_prefix_source hd hpieces')
    · have hlength : (route (.resource (d.resourceName options))).length =
          (route (.resource (d'.resourceName options))).length := by
        rw [route_resource hd, route_resource hd']
        rfl
      have heq := hpre.eq_of_length hlength
      rw [String.toList_inj.mp (Text.split_inj heq)]

end Directory

end PluginWrapper
