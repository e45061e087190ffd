import PluginWrapper.Proofs.Path
import PluginWrapper.Sink.Directory

/-! Where a directory sink puts the source of a class. The dots of its qualified name part
directories; where nothing stands between two of them, or before the first or behind the last, there
is none. -/
namespace PluginWrapper.Directory

/-- The pieces of a qualified name that name something. -/
def segments (name : String) : List (List Char) :=
  (Text.split '.' name.toList).filter (· != [])

variable {name : String} {directories : List (List Char)} {last : List Char}

private theorem mem_segments {s : List Char} (hslash : '/' ∉ name.toList) (hs : s ∈ segments name) :
    s ≠ [] ∧ '/' ∉ s ∧ '.' ∉ s := by
  obtain ⟨hpiece, hne⟩ := List.mem_filter.mp hs
  exact ⟨by simpa using hne, fun hmem => hslash (Text.mem_of_mem_split hpiece hmem),
    Text.not_mem_of_mem_split hpiece⟩

private theorem segments_ne_nil {c : Char} (hc : c ∈ name.toList) (hdot : c ≠ '.') :
    segments name ≠ [] := by
  obtain ⟨piece, hpiece, hmem⟩ := Text.exists_mem_split hc hdot
  have hne : piece ≠ [] := List.ne_nil_of_mem hmem
  exact List.ne_nil_of_mem (List.mem_filter.mpr ⟨hpiece, by simpa using hne⟩)

theorem segments_eq_split (h : [] ∉ Text.split '.' name.toList) :
    segments name = Text.split '.' name.toList := by
  refine List.filter_eq_self.mpr fun piece hpiece => ?_
  have hne : piece ≠ [] := fun heq => h (heq ▸ hpiece)
  simpa using hne

private theorem javaFile_ne_nil_and_no_slash {s : List Char} (hslash : '/' ∉ name.toList)
    (hsegments : segments name = directories ++ [last])
    (hs : s ∈ directories ++ [last ++ ".java".toList]) : s ≠ [] ∧ '/' ∉ s := by
  rcases List.mem_append.mp hs with hs | hs
  · obtain ⟨hne, hno, -⟩ := mem_segments hslash (hsegments ▸ List.mem_append_left [last] hs)
    exact ⟨hne, hno⟩
  · obtain ⟨-, hno, -⟩ := mem_segments (s := last) hslash (by simp [hsegments])
    rw [List.mem_singleton.mp hs]
    simp [hno]

/-- Neither a directory nor the file leads back. -/
private theorem javaFile_ne_dots {s : List Char} (hslash : '/' ∉ name.toList)
    (hsegments : segments name = directories ++ [last])
    (hs : s ∈ directories ++ [last ++ ".java".toList]) : s ≠ ['.'] ∧ s ≠ ['.', '.'] := by
  rcases List.mem_append.mp hs with hs | hs
  · obtain ⟨-, -, hdot⟩ := mem_segments hslash (hsegments ▸ List.mem_append_left [last] hs)
    constructor <;>
    · rintro rfl
      simp at hdot
  · have hlength : 2 < s.length := by
      rw [List.mem_singleton.mp hs, List.length_append]
      exact Nat.lt_add_left _ (by decide)
    constructor <;>
    · rintro rfl
      simp at hlength

/-- The named pieces are pushed, the last one with the extension. -/
theorem sourcePath_eq_pushAll (hslash : '/' ∉ name.toList)
    (hsegments : segments name = directories ++ [last]) (root : List Char) :
    sourcePath root name = Path.pushAll root (directories ++ [last ++ ".java".toList]) := by
  have hpieces : ∀ s ∈ Text.split '.' name.toList, '/' ∉ s := fun s hs hmem =>
    hslash (Text.mem_of_mem_split hs hmem)
  have hnamed : ∀ s ∈ segments name, s ≠ [] ∧ '/' ∉ s := fun s hs =>
    ⟨(mem_segments hslash hs).1, (mem_segments hslash hs).2.1⟩
  obtain ⟨hne, hno, hdot⟩ := mem_segments (s := last) hslash (by simp [hsegments])
  have hnil : (Text.split '.' name.toList).filter (· != []) ≠ [] := by
    rw [← segments, hsegments]
    simp
  obtain ⟨tail, htail, hpush⟩ := Path.pushAll_eq_push_named hpieces hnil root
  rw [← segments, ← Path.pushAll_eq_push (by simp [hsegments]) hnamed, hsegments,
    Path.pushAll_concat] at hpush
  rw [sourcePath, hpush, Path.withExtension_push hne hno hdot (by decide) htail,
    Path.pushAll_concat]
  rfl

theorem sourcePath_eq_push (hslash : '/' ∉ name.toList) (hne : segments name ≠ [])
    (root : List Char) :
    Path.isAbsolute (Text.join '/' (segments name) ++ ".java".toList) = false ∧
    sourcePath root name =
      Path.push root (Text.join '/' (segments name) ++ ".java".toList) := by
  obtain ⟨directories, last, hsegments⟩ := (segments name).eq_nil_or_concat.resolve_left hne
  rw [List.concat_eq_append] at hsegments
  have hjava : ∀ s ∈ directories ++ [last ++ ".java".toList], s ≠ [] ∧ '/' ∉ s := fun s =>
    javaFile_ne_nil_and_no_slash hslash hsegments
  rw [sourcePath_eq_pushAll hslash hsegments, Path.pushAll_eq_push (by simp) hjava, hsegments,
    ← Text.join_concat_append]
  exact ⟨Path.isAbsolute_join hjava, rfl⟩

private theorem segments_eq_of_join {other : String} (hslash : '/' ∉ name.toList)
    (hslash' : '/' ∉ other.toList) (hne : segments name ≠ []) (hne' : segments other ≠ [])
    (h : Text.join '/' (segments name) = Text.join '/' (segments other)) :
    segments name = segments other := by
  rw [← Text.split_join hne fun s hs => (mem_segments hslash hs).2.1, h,
    Text.split_join hne' fun s hs => (mem_segments hslash' hs).2.1]

private theorem class_segments {package name : String} (hpackage : '/' ∉ package.toList)
    (hname : '/' ∉ name.toList) :
    '/' ∉ (package ++ ".Plugin" ++ name).toList ∧ segments (package ++ ".Plugin" ++ name) ≠ [] := by
  have hc : 'P' ∈ (package ++ ".Plugin" ++ name).toList := by simp
  exact ⟨by simp [hpackage, hname], segments_ne_nil hc (by decide)⟩

/-- The file of a class is below the output root, whatever path that is: behind the root, which
stays as it is, come the named pieces of the qualified name, the last one with the extension. Two
classes share a file just when their names have the same named pieces. -/
theorem sourcePath_layout (root : List Char) {package name : String}
    (hpackage : '/' ∉ package.toList) (hname : '/' ∉ name.toList) :
    let qualified := package ++ ".Plugin" ++ name
    let path := sourcePath root qualified
    path = root ++ (if root = [] ∨ root.getLast? = some '/' then [] else ['/']) ++
      (Text.join '/' (segments qualified) ++ ".java".toList) ∧
    (∃ directories last, segments qualified = directories ++ [last] ∧
      Path.isAbsolute path = Path.isAbsolute root ∧
      Path.names path = Path.names root ++ (directories ++ [last ++ ".java".toList]) ∧
      ∀ s ∈ directories ++ [last ++ ".java".toList], s ≠ ['.'] ∧ s ≠ ['.', '.']) ∧
    ∀ package' name' : String, '/' ∉ package'.toList → '/' ∉ name'.toList →
      let other := package' ++ ".Plugin" ++ name'
      (path = sourcePath root other ↔ segments qualified = segments other) ∧
      ([] ∉ Text.split '.' qualified.toList → [] ∉ Text.split '.' other.toList →
        path = sourcePath root other → qualified = other) := by
  intro qualified path
  obtain ⟨hslash, hne⟩ := class_segments hpackage hname
  obtain ⟨habsolute, hpush⟩ := sourcePath_eq_push hslash hne root
  have hpath : path = _ := hpush.trans (Path.push_eq habsolute root)
  refine ⟨hpath, ?_, fun package' name' hpackage' hname' => ?_⟩
  · obtain ⟨directories, last, hsegments⟩ := (segments qualified).eq_nil_or_concat.resolve_left hne
    rw [List.concat_eq_append] at hsegments
    have hjava : ∀ s ∈ directories ++ [last ++ ".java".toList], s ≠ [] ∧ '/' ∉ s := fun s =>
      javaFile_ne_nil_and_no_slash hslash hsegments
    have hpushAll : path = _ := sourcePath_eq_pushAll hslash hsegments root
    refine ⟨directories, last, hsegments, ?_, ?_, fun s => javaFile_ne_dots hslash hsegments⟩
    · rw [hpushAll, Path.isAbsolute_pushAll fun s hs => Path.isAbsolute_eq_false (hjava s hs).2]
    · rw [hpushAll, Path.names_pushAll_of_no_slash hjava]
  · intro other
    obtain ⟨hslash', hne'⟩ := class_segments hpackage' hname'
    obtain ⟨habsolute', hpush'⟩ := sourcePath_eq_push hslash' hne' root
    have hother : sourcePath root other = _ := hpush'.trans (Path.push_eq habsolute' root)
    have hiff : path = sourcePath root other ↔ segments qualified = segments other := by
      constructor
      · intro heq
        rw [hpath, hother, List.append_cancel_left_eq, List.append_cancel_right_eq] at heq
        exact segments_eq_of_join hslash hslash' hne hne' heq
      · intro heq
        rw [hpath, hother, heq]
    refine ⟨hiff, fun hpieces hpieces' heq => ?_⟩
    have hsegments := hiff.mp heq
    rw [segments_eq_split hpieces, segments_eq_split hpieces'] at hsegments
    exact String.toList_inj.mp (Text.split_inj hsegments)

/-- Dots with nothing between them and a slash behind the root make no difference. -/
theorem sourcePath_layout_travel :
    '/' ∉ ".org..example".toList ∧ '/' ∉ "Travel.".toList ∧
    sourcePath "out/".toList (".org..example" ++ ".Plugin" ++ "Travel.") =
      "out/org/example/PluginTravel.java".toList ∧
    sourcePath "out/".toList (".org..example" ++ ".Plugin" ++ "Travel.") =
      sourcePath "out/".toList ("org.example" ++ ".Plugin" ++ "Travel") := by
  have hpackage : '/' ∉ ".org..example".toList := by decide
  have hname : '/' ∉ "Travel.".toList := by decide
  obtain ⟨hpath, -, hshared⟩ := sourcePath_layout "out/".toList hpackage hname
  obtain ⟨hiff, -⟩ := hshared "org.example" "Travel" (by decide) (by decide)
  exact ⟨hpackage, hname, hpath.trans (by decide +kernel), hiff.mpr (by decide +kernel)⟩

end PluginWrapper.Directory
