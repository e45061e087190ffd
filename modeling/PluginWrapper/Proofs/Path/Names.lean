import Mathlib.Data.List.TakeWhile
import PluginWrapper.Proofs.Path

/-! The names along a path that is put together again from its lead and some of its segments: an
extension changes the last name, and the paths above a path have the first of its names. -/
namespace PluginWrapper.Path

/-- The lead and the segments of a path. -/
structure IsParted (lead : List Char) (segments : List (List Char)) : Prop where
  ne_nil : segments ≠ []
  no_slash : ∀ s ∈ segments, '/' ∉ s
  lead : lead = [] ∧ (segments.head? = some [] → segments = [[]]) ∨ lead = ['/'] ∨
    lead = ['.'] ∧ segments.head? = some []

/-- A leading dot is a name of its own. -/
def leadNames (lead : List Char) : List (List Char) :=
  if lead = ['.'] then [['.']] else []

variable {path lead : List Char} {segments front : List (List Char)}

private theorem isParted_splitLead (path : List Char) :
    IsParted (splitLead path).1 (Text.split '/' (splitLead path).2) := by
  refine ⟨Text.split_ne_nil '/' _, fun s hs => Text.not_mem_of_mem_split hs, ?_⟩
  fun_cases splitLead path with
  | case1 rest => exact .inr (.inl rfl)
  | case2 => exact .inr (.inr ⟨rfl, rfl⟩)
  | case3 rest => exact .inr (.inr ⟨rfl, by simp [Text.split]⟩)
  | case4 _ hroot _ _ =>
    refine .inl ⟨rfl, fun hhead => ?_⟩
    -- an empty first segment is all there is, or a slash follows it
    have hjoin := Text.join_split '/' path
    obtain ⟨rest, hsegments⟩ := List.head?_eq_some_iff.mp hhead
    rw [hsegments] at hjoin ⊢
    cases rest with
    | nil => rfl
    | cons s rest => exact absurd hjoin.symm (hroot _)

private theorem IsParted.of_prefix (h : IsParted lead segments) (hfront : front <+: segments)
    (hne : front ≠ []) : IsParted lead front where
  ne_nil := hne
  no_slash s hs := h.no_slash s (hfront.mem hs)
  lead := by
    have hhead : front.head? = segments.head? := by
      obtain ⟨rest, rfl⟩ := hfront
      cases front with
      | nil => exact absurd rfl hne
      | cons s front => rfl
    rw [hhead]
    refine h.lead.imp_left fun ⟨hlead, hall⟩ => ⟨hlead, fun hempty => ?_⟩
    rw [hall hempty] at hfront
    obtain ⟨_, rfl, hnil⟩ := (List.prefix_cons_iff.mp hfront).resolve_left hne
    rw [List.prefix_nil.mp hnil]

/-- Another name in the place of the last one. -/
private theorem IsParted.replace {s s' : List Char} (h : IsParted lead (front ++ [s])) (hs : s ≠ [])
    (hs' : s' ≠ []) (hslash : '/' ∉ s') : IsParted lead (front ++ [s']) where
  ne_nil := by simp
  no_slash x hx := by
    rcases List.mem_append.mp hx with hx | hx
    · exact h.no_slash x (List.mem_append_left _ hx)
    · rwa [List.mem_singleton.mp hx]
  lead := by
    have hlead := h.lead
    cases front with
    | nil => simpa [hs, hs'] using hlead
    | cons x front => simpa using hlead

private theorem IsParted.names (h : IsParted lead segments) :
    names (lead ++ Text.join '/' segments) = leadNames lead ++ segments.filter (· != []) := by
  have hjoin {pieces : List (List Char)} (hne : pieces ≠ []) (hpieces : ∀ s ∈ pieces, '/' ∉ s) :
      Path.names (Text.join '/' pieces) = pieces.filter (· != []) := by
    rw [Path.names, Text.split_join hne hpieces]
  rcases h.lead with ⟨rfl, -⟩ | rfl | ⟨rfl, hhead⟩
  · exact hjoin h.ne_nil h.no_slash
  · exact (names_append_cons [] _).trans (hjoin h.ne_nil h.no_slash)
  · obtain ⟨rest, rfl⟩ := List.head?_eq_some_iff.mp hhead
    cases rest with
    | nil => rfl
    | cons s rest =>
      exact (names_append_cons ['.'] _).trans (congrArg _ (hjoin (List.cons_ne_nil s rest)
        fun x hx => h.no_slash x (List.mem_cons_of_mem [] hx)))

private theorem IsParted.isAbsolute (h : IsParted lead segments) :
    isAbsolute (lead ++ Text.join '/' segments) = (lead == ['/']) := by
  rcases h.lead with ⟨rfl, hall⟩ | rfl | ⟨rfl, hhead⟩
  · cases segments with
    | nil => exact absurd rfl h.ne_nil
    | cons s rest =>
      cases s with
      | nil => cases hall rfl; rfl
      | cons c s =>
        have hc : c ≠ '/' := fun heq => h.no_slash _ List.mem_cons_self (heq ▸ List.mem_cons_self)
        cases rest <;> simpa [Path.isAbsolute, Text.join] using hc
  · rfl
  · rfl

private theorem splitLead_join (path : List Char) :
    (splitLead path).1 ++ Text.join '/' (Text.split '/' (splitLead path).2) = path := by
  rw [Text.join_split, splitLead_append_eq]

/-- Behind the named segments of a path all segments are idle. -/
private theorem exists_idle (path : List Char) : ∃ idle, (∀ s ∈ idle, isIdle s = true) ∧
    (namedSegments path).reverse ++ idle = Text.split '/' (splitLead path).2 := by
  have hparts := List.takeWhile_append_dropWhile (p := isIdle)
    (l := (Text.split '/' (splitLead path).2).reverse)
  refine ⟨((Text.split '/' (splitLead path).2).reverse.takeWhile isIdle).reverse,
    fun s hs => ?_, ?_⟩
  · exact List.mem_takeWhile_imp (List.mem_reverse.mp hs)
  · rw [namedSegments, ← List.reverse_append, hparts, List.reverse_reverse]

private theorem isIdle_of_namedSegments {s : List Char} {above : List (List Char)}
    (h : namedSegments path = s :: above) : isIdle s = false := by
  have hhead := List.head?_dropWhile_not isIdle (Text.split '/' (splitLead path).2).reverse
  rw [← namedSegments, h] at hhead
  simpa using hhead

private theorem eq_dot_of_idle {idle : List (List Char)} (h : ∀ s ∈ idle, isIdle s = true)
    {name : List Char} (hname : name ∈ idle.filter (· != [])) : name = ['.'] := by
  obtain ⟨hmem, hne⟩ := List.mem_filter.mp hname
  have hidle := h name hmem
  simp only [isIdle, Bool.or_eq_true, beq_iff_eq] at hidle
  exact hidle.resolve_left (by simpa using hne)

/-- The last name of a path is its first named segment, unless it is a dot. -/
private theorem namedSegments_of_names {name : List Char} (h : names path = front ++ [name])
    (hdot : name ≠ ['.']) : ∃ above, namedSegments path = name :: above ∧
      above.reverse ++ [name] <+: Text.split '/' (splitLead path).2 ∧
      front = leadNames (splitLead path).1 ++ above.reverse.filter (· != []) := by
  obtain ⟨idle, hidle, hsegments⟩ := exists_idle path
  have hnames := (isParted_splitLead path).names
  rw [splitLead_join, h, ← hsegments, List.filter_append, ← List.append_assoc] at hnames
  have hnil : idle.filter (· != []) = [] := by
    rcases List.eq_nil_or_concat (idle.filter (· != [])) with hnil | ⟨_, last, hlast⟩
    · exact hnil
    · rw [hlast, List.concat_eq_append, ← List.append_assoc] at hnames
      obtain ⟨-, heq⟩ := List.append_inj' hnames rfl
      have hmem : name ∈ idle.filter (· != []) := by simp [hlast, List.singleton_inj.mp heq]
      exact absurd (eq_dot_of_idle hidle hmem) hdot
  rw [hnil, List.append_nil] at hnames
  cases hnamed : namedSegments path with
  | nil =>
    rw [hnamed, List.reverse_nil, List.filter_nil, List.append_nil, leadNames] at hnames
    have hmem : name ∈ front ++ [name] := by simp
    rw [hnames] at hmem
    split at hmem
    · exact absurd (List.mem_singleton.mp hmem) hdot
    · cases hmem
  | cons s above =>
    have hne : s ≠ [] := by
      rintro rfl
      cases isIdle_of_namedSegments hnamed
    rw [hnamed, List.reverse_cons] at hsegments hnames
    rw [List.filter_append, ← List.append_assoc, List.filter_cons_of_pos (by simpa using hne),
      List.filter_nil] at hnames
    obtain ⟨rfl, heq⟩ := List.append_inj' hnames rfl
    obtain rfl := List.singleton_inj.mp heq
    exact ⟨above, rfl, ⟨idle, hsegments⟩, rfl⟩

theorem names_withExtension {name extension : List Char} (h : names path = front ++ [name])
    (hdot : '.' ∉ name) (hslash : '/' ∉ extension) :
    names (withExtension path extension) = front ++ [name ++ '.' :: extension] ∧
      isAbsolute (withExtension path extension) = isAbsolute path := by
  have hdots {dots : List Char} (hmem : '.' ∈ dots) : name ≠ dots := fun heq => hdot (heq ▸ hmem)
  obtain ⟨above, hnamed, hpre, rfl⟩ := namedSegments_of_names h (hdots (by simp))
  have hparted := isParted_splitLead path
  have hname : name ≠ [] := by
    have hmem : name ∈ names path := by simp [h]
    simpa using (List.mem_filter.mp hmem).2
  have hslash' : '/' ∉ name := hparted.no_slash name (hpre.mem (by simp))
  have hfront : IsParted _ (above.reverse ++ [name ++ '.' :: extension]) :=
    (hparted.of_prefix hpre (by simp)).replace hname (by simp) (by simp [hslash, hslash'])
  have hpath : withExtension path extension = (splitLead path).1 ++
      Text.join '/' (above.reverse ++ [name ++ '.' :: extension]) := by
    rw [withExtension, hnamed]
    dsimp only
    rw [if_neg (hdots (by simp)), stem_of_no_dot hdot, ofSegments, List.reverse_cons]
  rw [hpath, hfront.names, hfront.isAbsolute]
  refine ⟨?_, ?_⟩
  · rw [List.filter_append, List.append_assoc]
    simp
  · rw [← hparted.isAbsolute, splitLead_join]

/-- A path above another one has the first of its names and begins at the same place. -/
theorem names_of_mem_ancestors {above : List Char} (h : above ∈ ancestors path) :
    names above <+: names path ∧ isAbsolute above = isAbsolute path := by
  have hparted := isParted_splitLead path
  have hpath := splitLead_join path
  have hidle : (namedSegments path).reverse <+: Text.split '/' (splitLead path).2 :=
    (exists_idle path).imp fun _ h => h.2
  rw [← hpath, hparted.names, hparted.isAbsolute]
  rw [ancestors] at h
  generalize namedSegments path = named at *
  generalize Text.split '/' (splitLead path).2 = segments at *
  induction named with
  | nil =>
    rw [ancestorsAux] at h
    split at h
    · rename_i hlead
      obtain rfl := List.mem_singleton.mp h
      rw [hlead]
      exact ⟨List.prefix_append [['.']] _, rfl⟩
    · cases h
  | cons s named ih =>
    rw [List.reverse_cons] at hidle
    have hshorter := (List.prefix_append named.reverse [s]).trans hidle
    rw [ancestorsAux] at h
    split at h
    · exact ih h hshorter
    · rcases List.mem_cons.mp h with rfl | h
      · have hfront := hparted.of_prefix hidle (by simp)
        rw [ofSegments, List.reverse_cons, hfront.names, hfront.isAbsolute]
        exact ⟨(List.prefix_append_right_inj _).mpr (hidle.filter _), rfl⟩
      · exact ih h hshorter

end PluginWrapper.Path
