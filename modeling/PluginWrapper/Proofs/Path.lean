import PluginWrapper.Path
import PluginWrapper.Proofs.Text.Split

/-! Paths that grow segment by segment: what they name, what stands above them, and how the last
segment gets an extension. -/
namespace PluginWrapper.Path

/-- A segment that leads from a directory to what it holds. -/
structure Descends (segment : List Char) : Prop where
  ne_nil : segment ≠ []
  no_slash : '/' ∉ segment
  no_nul : '\x00' ∉ segment
  ne_dot : segment ≠ ['.']
  ne_dots : segment ≠ ['.', '.']

private theorem isIdle_eq_false {s : List Char} (h : Descends s) : isIdle s = false := by
  simp [isIdle, h.ne_nil, h.ne_dot]

theorem isAbsolute_eq_false {s : List Char} (h : '/' ∉ s) : isAbsolute s = false := by
  cases s with
  | nil => rfl
  | cons c s =>
    have hc : c ≠ '/' := fun heq => h (heq ▸ List.mem_cons_self)
    simpa [isAbsolute] using hc

theorem Descends.isAbsolute {s : List Char} (h : Descends s) : isAbsolute s = false :=
  isAbsolute_eq_false h.no_slash

private theorem push_of_slash {base s : List Char} (hbase : base.getLast? = some '/')
    (hs : isAbsolute s = false) : push base s = base ++ s := by
  rw [push, if_neg (by simp [hs]), if_pos (.inr hbase)]

private theorem push_of_no_slash {base s : List Char} (hne : base ≠ [])
    (hbase : base.getLast? ≠ some '/') (hs : isAbsolute s = false) :
    push base s = base ++ '/' :: s := by
  rw [push, if_neg (by simp [hs]), if_neg (by simp [hne, hbase])]

theorem push_eq {path : List Char} (h : isAbsolute path = false) (base : List Char) :
    push base path =
      base ++ (if base = [] ∨ base.getLast? = some '/' then [] else ['/']) ++ path := by
  rw [push, if_neg (by simp [h])]
  split <;> simp

private theorem push_nil (base : List Char) :
    push base [] = [] ∨ (push base []).getLast? = some '/' := by
  rw [push_eq rfl, List.append_nil]
  split
  · simpa using ‹_›
  · simp

/-- To push nothing sees to a slash, which what is pushed next would have brought. -/
private theorem push_push_nil {path : List Char} (h : isAbsolute path = false) (base : List Char) :
    push (push base []) path = push base path := by
  rw [push_eq h (push base []), if_pos (push_nil base), push_eq rfl base, push_eq h base]
  simp

theorem prefix_push {base s : List Char} (hne : base ≠ []) (hs : isAbsolute s = false) :
    base <+: push base s := by
  by_cases hbase : base.getLast? = some '/'
  · rw [push_of_slash hbase hs]
    exact List.prefix_append base s
  · rw [push_of_no_slash hne hbase hs]
    exact List.prefix_append base _

theorem push_ne_nil {base s : List Char} (hne : base ≠ []) (hs : isAbsolute s = false) :
    push base s ≠ [] := by
  intro h
  have hpre := prefix_push hne hs
  rw [h] at hpre
  exact hne (List.prefix_nil.mp hpre)

private theorem push_ne_nil_of_ne_nil (base : List Char) {s : List Char} (hs : s ≠ []) :
    push base s ≠ [] := by
  rw [push]
  split
  · exact hs
  · split <;> simp [hs]

theorem isAbsolute_push {base s : List Char} (hs : isAbsolute s = false) :
    isAbsolute (push base s) = isAbsolute base := by
  cases base with
  | nil =>
    rw [push, if_neg (by simp [hs]), if_pos (.inl rfl)]
    exact hs
  | cons c base =>
    obtain ⟨rest, hrest⟩ := prefix_push (List.cons_ne_nil c base) hs
    rw [← hrest]
    rfl

theorem push_append {base path : List Char} (hne : path ≠ []) (h : isAbsolute path = false)
    (rest : List Char) : push base (path ++ rest) = push base path ++ rest := by
  have happend : isAbsolute (path ++ rest) = false := by
    obtain ⟨c, path, rfl⟩ := List.exists_cons_of_ne_nil hne
    exact h
  rw [← Bool.not_eq_true] at h happend
  rw [push, push, if_neg h, if_neg happend]
  split <;> simp

theorem getLast?_push {base s : List Char} (hne : s ≠ []) (hs : '/' ∉ s) :
    (push base s).getLast? ≠ some '/' := by
  have hend := List.getLast?_eq_some_getLast hne
  have hlast : (push base s).getLast? = s.getLast? := by
    rw [push, if_neg (by simp [isAbsolute_eq_false hs])]
    split
    · rw [List.getLast?_append, hend, Option.some_or]
    · rw [List.getLast?_append, List.getLast?_cons_of_ne_nil hne, hend, Option.some_or]
  rw [hlast]
  exact fun h => hs (List.mem_of_getLast? h)

theorem nul_not_mem_push {base s : List Char} (hbase : '\x00' ∉ base) (hs : '\x00' ∉ s) :
    '\x00' ∉ push base s := by
  rw [push]
  split
  · exact hs
  · split <;> simp [hbase, hs]

/-- Pushing a path with a slash is pushing what stands before it and then what follows it. -/
theorem push_push {base s path : List Char} (hs : s ≠ []) (hslash : '/' ∉ s)
    (hpath : isAbsolute path = false) :
    push base (s ++ '/' :: path) = push (push base s) path := by
  rw [push_append hs (isAbsolute_eq_false hslash),
    push_of_no_slash (push_ne_nil_of_ne_nil base hs) (getLast?_push hs hslash) hpath]

theorem names_append_cons (front back : List Char) :
    names (front ++ '/' :: back) = names front ++ names back := by
  rw [names, Text.split_append_cons, List.filter_append, ← names, ← names]

theorem names_push {base path : List Char} (h : isAbsolute path = false) :
    names (push base path) = names base ++ names path := by
  rw [push, if_neg (by simp [h])]
  split
  · rename_i hbase
    rcases hbase with rfl | hslash
    · rfl
    · obtain ⟨front, rfl⟩ := List.getLast?_eq_some_iff.mp hslash
      have hempty : names [] = [] := rfl
      rw [List.append_assoc, List.singleton_append, names_append_cons, names_append_cons, hempty,
        List.append_nil]
  · exact names_append_cons base path

private theorem names_of_no_slash {s : List Char} (hne : s ≠ []) (h : '/' ∉ s) : names s = [s] := by
  rw [names, Text.split_of_not_mem h]
  simp [hne]

theorem splitLead_append_eq (path : List Char) :
    (splitLead path).1 ++ (splitLead path).2 = path := by
  unfold splitLead
  split <;> rfl

/-- What follows a path becomes part of what its lead leaves. Behind a lone dot that takes a
slash. -/
private theorem splitLead_append {base rest : List Char} (hne : base ≠ [])
    (hdot : base = ['.'] → isAbsolute rest) :
    splitLead (base ++ rest) = ((splitLead base).1, (splitLead base).2 ++ rest) := by
  fun_cases splitLead base with
  | case1 base => rfl
  | case2 =>
    cases rest with
    | nil => simp [isAbsolute] at hdot
    | cons c rest =>
      obtain rfl : c = '/' := by simpa [isAbsolute] using hdot
      rfl
  | case3 base => rfl
  | case4 _ hroot hlone hlead =>
    cases base with
    | nil => exact absurd rfl hne
    | cons c base =>
      unfold splitLead
      split
      · rename_i heq
        obtain ⟨rfl, -⟩ := List.cons.inj heq
        exact absurd rfl (hroot base)
      · rename_i heq
        obtain ⟨rfl, hnil⟩ := List.cons.inj heq
        obtain ⟨rfl, -⟩ := List.append_eq_nil_iff.mp hnil
        exact absurd rfl hlone
      · rename_i heq
        obtain ⟨rfl, htail⟩ := List.cons.inj heq
        cases base with
        | nil => exact absurd rfl hlone
        | cons d base =>
          obtain ⟨rfl, -⟩ := List.cons.inj htail
          exact absurd rfl (hlead base)
      · rfl

private theorem splitLead_ends {path : List Char} (h : path.getLast? = some '/') :
    (splitLead path).2 = [] ∨ ∃ front, (splitLead path).2 = front ++ ['/'] := by
  by_cases hnil : (splitLead path).2 = []
  · exact .inl hnil
  · rw [← splitLead_append_eq path, List.getLast?_append, List.getLast?_eq_some_getLast hnil,
      Option.some_or, ← List.getLast?_eq_some_getLast hnil] at h
    exact .inr (List.getLast?_eq_some_iff.mp h)

private theorem exists_split_of_ends {path : List Char}
    (h : path = [] ∨ ∃ front, path = front ++ ['/']) :
    ∃ above, ∀ s, '/' ∉ s → Text.split '/' (path ++ s) = above ++ [s] := by
  rcases h with rfl | ⟨front, rfl⟩
  · exact ⟨[], fun s hs => Text.split_of_not_mem hs⟩
  · refine ⟨Text.split '/' front, fun s hs => ?_⟩
    rw [List.append_assoc, List.singleton_append, Text.split_append_cons,
      Text.split_of_not_mem hs]

/-- The segments above a pushed one do not depend on it. -/
private theorem exists_above {base : List Char} (hne : base ≠ []) :
    ∃ above, namedSegments base = above.reverse.dropWhile isIdle ∧ ∀ s, '/' ∉ s →
      (splitLead (push base s)).1 = (splitLead base).1 ∧
      Text.split '/' (splitLead (push base s)).2 = above ++ [s] := by
  by_cases hbase : base.getLast? = some '/'
  · have hdot : base ≠ ['.'] := by
      rintro rfl
      simp at hbase
    obtain ⟨above, habove⟩ := exists_split_of_ends (splitLead_ends hbase)
    refine ⟨above, ?_, fun s hs => ?_⟩
    · have hempty := habove [] List.not_mem_nil
      rw [List.append_nil] at hempty
      rw [namedSegments, hempty]
      simp [isIdle]
    · rw [push_of_slash hbase (isAbsolute_eq_false hs),
        splitLead_append hne fun h => absurd h hdot]
      exact ⟨rfl, habove s hs⟩
  · refine ⟨Text.split '/' (splitLead base).2, rfl, fun s hs => ?_⟩
    rw [push_of_no_slash hne hbase (isAbsolute_eq_false hs), splitLead_append hne fun _ => rfl]
    refine ⟨rfl, ?_⟩
    rw [Text.split_append_cons, Text.split_of_not_mem hs]

private theorem namedSegments_of_split {path s : List Char} {above idle : List (List Char)}
    (hs : isIdle s = false) (hidle : ∀ x ∈ idle, isIdle x = true)
    (h : Text.split '/' (splitLead path).2 = above ++ s :: idle) :
    namedSegments path = s :: above.reverse := by
  have hbehind : ∀ x ∈ idle.reverse, isIdle x = true := fun x hx =>
    hidle x (List.mem_reverse.mp hx)
  rw [namedSegments, h, List.reverse_append, List.reverse_cons, List.append_assoc,
    List.singleton_append, List.dropWhile_append_of_pos hbehind,
    List.dropWhile_cons_of_neg (by simp [hs])]

private theorem ofSegments_of_split {path s : List Char} {above : List (List Char)}
    (h : Text.split '/' (splitLead path).2 = above ++ [s]) :
    ofSegments (splitLead path).1 (s :: above.reverse) = path := by
  rw [ofSegments, List.reverse_cons, List.reverse_reverse, ← h, Text.join_split,
    splitLead_append_eq]

private theorem ancestorsAux_dropWhile (lead : List Char) (segments : List (List Char)) :
    ancestorsAux lead (segments.dropWhile isIdle) = ancestorsAux lead segments := by
  induction segments with
  | nil => rfl
  | cons s segments ih =>
    by_cases hs : isIdle s
    · rw [List.dropWhile_cons_of_pos hs, ih, ancestorsAux, if_pos hs]
    · rw [List.dropWhile_cons_of_neg hs]

theorem ancestors_push {base s : List Char} (hne : base ≠ []) (hs : Descends s) :
    ancestors (push base s) = push base s :: ancestors base := by
  obtain ⟨above, hbase, hpush⟩ := exists_above hne
  obtain ⟨hlead, hsplit⟩ := hpush s hs.no_slash
  have hidle : ¬ isIdle s := by simp [isIdle_eq_false hs]
  rw [ancestors, namedSegments_of_split (isIdle_eq_false hs) (by simp) hsplit, ancestorsAux,
    if_neg hidle, ofSegments_of_split hsplit, hlead, ← ancestorsAux_dropWhile, ← hbase, ← ancestors]

theorem stem_of_no_dot {s : List Char} (h : '.' ∉ s) : stem s = s := by
  have hnone : s.reverse.dropWhile (· != '.') = [] := by
    rw [← List.append_nil s.reverse, List.dropWhile_append_of_pos, List.dropWhile_nil]
    intro c hc
    have hdot : c ≠ '.' := by
      rintro rfl
      exact h (List.mem_reverse.mp hc)
    simpa using hdot
  rw [stem, hnone]
  rfl

private theorem splitLead_of_name {s : List Char} (hs : isIdle s = false) (hslash : '/' ∉ s) :
    splitLead s = ([], s) := by
  unfold splitLead
  split
  · simp at hslash
  · cases hs
  · simp at hslash
  · rfl

/-- The lead and the segments above a pushed name do not depend on it. -/
private theorem exists_parts (base : List Char) :
    ∃ lead above, ∀ s, isIdle s = false → '/' ∉ s →
      (splitLead (push base s)).1 = lead ∧
      Text.split '/' (splitLead (push base s)).2 = above ++ [s] := by
  by_cases hne : base = []
  · subst hne
    refine ⟨[], [], fun s hs hslash => ?_⟩
    have hpush : push [] s = s := by
      rw [push, if_neg (by simp [isAbsolute_eq_false hslash]), if_pos (.inl rfl), List.nil_append]
    rw [hpush, splitLead_of_name hs hslash, Text.split_of_not_mem hslash]
    exact ⟨rfl, rfl⟩
  · obtain ⟨above, -, hpush⟩ := exists_above hne
    exact ⟨(splitLead base).1, above, fun s _ hslash => hpush s hslash⟩

/-- The name that was pushed last gets the extension, if it has none. A slash behind it goes. -/
theorem withExtension_push {s extension tail : List Char} (hs : s ≠ []) (hslash : '/' ∉ s)
    (hdot : '.' ∉ s) (hextension : '/' ∉ extension) (htail : tail = [] ∨ tail = ['/'])
    (base : List Char) :
    withExtension (push base s ++ tail) extension = push base (s ++ '.' :: extension) := by
  have hdots (dots : List Char) (hmem : '.' ∈ dots) : s ≠ dots := by
    rintro rfl
    exact hdot hmem
  have hidle : isIdle s = false := by simp [isIdle, hs, hdots ['.']]
  have hwith : isIdle (s ++ '.' :: extension) = false := by
    have hlone : s ++ '.' :: extension ≠ ['.'] := by
      intro heq
      have hlength := congrArg List.length heq
      have hpos := List.length_pos_iff.mpr hs
      simp only [List.length_append, List.length_cons, List.length_nil] at hlength
      omega
    simp [isIdle, hlone]
  obtain ⟨lead, above, hparts⟩ := exists_parts base
  obtain ⟨hlead, hsplit⟩ := hparts s hidle hslash
  obtain ⟨hlead', hsplit'⟩ := hparts _ hwith (by simp [hslash, hextension])
  have hnamed : (splitLead (push base s ++ tail)).1 = lead ∧
      namedSegments (push base s ++ tail) = s :: above.reverse := by
    rcases htail with rfl | rfl
    · rw [List.append_nil]
      exact ⟨hlead, namedSegments_of_split hidle (by simp) hsplit⟩
    · have hpush : splitLead (push base s ++ ['/']) = _ :=
        splitLead_append (push_ne_nil_of_ne_nil base hs) fun _ => rfl
      have hnothing : ∀ x ∈ [([] : List Char)], isIdle x = true := by simp [isIdle]
      rw [hpush]
      refine ⟨hlead, namedSegments_of_split hidle hnothing ?_⟩
      rw [hpush, Text.split_append_cons, hsplit, List.append_assoc]
      rfl
  rw [withExtension, hnamed.2]
  dsimp only
  rw [if_neg (hdots _ (by simp)), stem_of_no_dot hdot, hnamed.1, ← hlead',
    ofSegments_of_split hsplit']

section All
variable {base : List Char} {segments : List (List Char)}

theorem pushAll_append (base : List Char) (first second : List (List Char)) :
    pushAll base (first ++ second) = pushAll (pushAll base first) second :=
  List.foldl_append

theorem pushAll_concat (base : List Char) (segments : List (List Char)) (s : List Char) :
    pushAll base (segments ++ [s]) = push (pushAll base segments) s :=
  pushAll_append base segments [s]

theorem pushAll_ne_nil (hne : base ≠ []) (hs : ∀ s ∈ segments, Descends s) :
    pushAll base segments ≠ [] := by
  induction segments generalizing base with
  | nil => exact hne
  | cons s segments ih =>
    have habsolute := isAbsolute_eq_false (hs s List.mem_cons_self).no_slash
    exact ih (push_ne_nil hne habsolute) fun x hx => hs x (List.mem_cons_of_mem s hx)

theorem isAbsolute_pushAll (h : ∀ s ∈ segments, isAbsolute s = false) :
    isAbsolute (pushAll base segments) = isAbsolute base := by
  induction segments generalizing base with
  | nil => rfl
  | cons s segments ih =>
    exact (ih fun x hx => h x (List.mem_cons_of_mem s hx)).trans
      (isAbsolute_push (h s List.mem_cons_self))

theorem names_pushAll (h : ∀ s ∈ segments, isAbsolute s = false) :
    names (pushAll base segments) = names base ++ segments.flatMap names := by
  induction segments generalizing base with
  | nil => exact (List.append_nil _).symm
  | cons s segments ih =>
    rw [pushAll, List.foldl_cons, ← pushAll, ih fun x hx => h x (List.mem_cons_of_mem s hx),
      names_push (h s List.mem_cons_self), List.flatMap_cons, List.append_assoc]

theorem names_pushAll_of_no_slash (h : ∀ s ∈ segments, s ≠ [] ∧ '/' ∉ s) :
    names (pushAll base segments) = names base ++ segments := by
  rw [names_pushAll fun s hs => isAbsolute_eq_false (h s hs).2, List.flatMap_def,
    List.map_congr_left fun s hs => names_of_no_slash (h s hs).1 (h s hs).2, ← List.flatMap_def,
    List.flatMap_singleton']

theorem names_pushAll_of_descends (hs : ∀ s ∈ segments, Descends s) :
    names (pushAll base segments) = names base ++ segments :=
  names_pushAll_of_no_slash fun s hmem => ⟨(hs s hmem).ne_nil, (hs s hmem).no_slash⟩

theorem nul_not_mem_pushAll (hbase : '\x00' ∉ base) (hs : ∀ s ∈ segments, Descends s) :
    '\x00' ∉ pushAll base segments := by
  induction segments generalizing base with
  | nil => exact hbase
  | cons s segments ih =>
    exact ih (nul_not_mem_push hbase (hs s List.mem_cons_self).no_nul) fun x hx =>
      hs x (List.mem_cons_of_mem s hx)

theorem prefix_pushAll (hne : base ≠ []) (hs : ∀ s ∈ segments, Descends s) :
    base <+: pushAll base segments := by
  induction segments generalizing base with
  | nil => exact List.prefix_refl base
  | cons s segments ih =>
    have habsolute := isAbsolute_eq_false (hs s List.mem_cons_self).no_slash
    exact (prefix_push hne habsolute).trans
      (ih (push_ne_nil hne habsolute) fun x hx => hs x (List.mem_cons_of_mem s hx))

theorem getLast?_pushAll_concat {s : List Char} (hne : base ≠ [])
    (hs : ∀ x ∈ segments ++ [s], Descends x) :
    (pushAll base (segments ++ [s])).getLast? ≠ some '/' := by
  have hbase := pushAll_ne_nil hne fun x hx => hs x (List.mem_append_left [s] hx)
  rw [pushAll_concat]
  exact getLast?_push (hs s (by simp)).ne_nil (hs s (by simp)).no_slash

theorem ancestors_pushAll_concat {s : List Char} (hne : base ≠ [])
    (hs : ∀ x ∈ segments ++ [s], Descends x) :
    ancestors (pushAll base (segments ++ [s])) =
      pushAll base (segments ++ [s]) :: ancestors (pushAll base segments) := by
  have hbase := pushAll_ne_nil hne fun x hx => hs x (List.mem_append_left [s] hx)
  rw [pushAll_concat]
  exact ancestors_push hbase (hs s (by simp))

theorem isAbsolute_join (h : ∀ s ∈ segments, s ≠ [] ∧ '/' ∉ s) :
    isAbsolute (Text.join '/' segments) = false := by
  cases segments with
  | nil => rfl
  | cons s segments =>
    obtain ⟨hne, hslash⟩ := h s List.mem_cons_self
    obtain ⟨c, s, rfl⟩ := List.exists_cons_of_ne_nil hne
    have hfirst := isAbsolute_eq_false hslash
    cases segments <;> exact hfirst

private theorem pushAll_of_nil {idle : List (List Char)} (h : ∀ s ∈ idle, s = [])
    (base : List Char) :
    pushAll base idle = base ∨ pushAll base idle = push base [] := by
  induction idle generalizing base with
  | nil => exact .inl rfl
  | cons s idle ih =>
    obtain rfl := h s List.mem_cons_self
    rcases ih (fun s hs => h s (List.mem_cons_of_mem _ hs)) (push base []) with hrest | hrest
    · exact .inr hrest
    · exact .inr (hrest.trans (push_push_nil rfl base))

/-- Names pushed one after the other are pushed as one path. -/
theorem pushAll_eq_push (hne : segments ≠ []) (h : ∀ s ∈ segments, s ≠ [] ∧ '/' ∉ s)
    (base : List Char) : pushAll base segments = push base (Text.join '/' segments) := by
  induction segments generalizing base with
  | nil => exact absurd rfl hne
  | cons s segments ih =>
    cases segments with
    | nil => rfl
    | cons next segments =>
      obtain ⟨hs, hslash⟩ := h s List.mem_cons_self
      have hrest : ∀ x ∈ next :: segments, x ≠ [] ∧ '/' ∉ x := fun x hx =>
        h x (List.mem_cons_of_mem s hx)
      have hjoin : Text.join '/' (s :: next :: segments) =
          s ++ '/' :: Text.join '/' (next :: segments) := rfl
      rw [pushAll, List.foldl_cons, ← pushAll, ih (List.cons_ne_nil next segments) hrest, hjoin,
        push_push hs hslash (isAbsolute_join hrest)]

/-- Of segments that are pushed, those without a name show only if they come last: as a slash. -/
theorem pushAll_eq_push_named (hslash : ∀ s ∈ segments, '/' ∉ s)
    (hne : segments.filter (· != []) ≠ []) (base : List Char) :
    ∃ tail, (tail = [] ∨ tail = ['/']) ∧ pushAll base segments =
      push base (Text.join '/' (segments.filter (· != []))) ++ tail := by
  induction segments generalizing base with
  | nil => exact absurd rfl hne
  | cons s segments ih =>
    have hrest : ∀ x ∈ segments, '/' ∉ x := fun x hx => hslash x (List.mem_cons_of_mem s hx)
    have hjoin : isAbsolute (Text.join '/' (segments.filter (· != []))) = false :=
      isAbsolute_join fun x hx => by
        obtain ⟨hmem, hx⟩ := List.mem_filter.mp hx
        exact ⟨by simpa using hx, hrest x hmem⟩
    have hpushAll : pushAll base (s :: segments) = pushAll (push base s) segments := rfl
    by_cases hs : s = []
    · subst hs
      rw [List.filter_cons_of_neg (by simp)] at hne ⊢
      obtain ⟨tail, htail, heq⟩ := ih hrest hne (push base [])
      exact ⟨tail, htail, by rw [hpushAll, heq, push_push_nil hjoin]⟩
    · have hno := hslash s List.mem_cons_self
      rw [List.filter_cons_of_pos (by simpa using hs), hpushAll]
      by_cases hlast : segments.filter (· != []) = []
      · -- Nothing named follows, so all that can be added is a slash.
        have hnil : ∀ x ∈ segments, x = [] := by simpa using hlast
        have hslashed : push (push base s) [] = push base s ++ ['/'] :=
          push_of_no_slash (push_ne_nil_of_ne_nil base hs) (getLast?_push hs hno) rfl
        rw [hlast]
        rcases pushAll_of_nil hnil (push base s) with heq | heq
        · exact ⟨[], .inl rfl, by rw [heq, List.append_nil]; rfl⟩
        · exact ⟨['/'], .inr rfl, by rw [heq, hslashed]; rfl⟩
      · obtain ⟨tail, htail, heq⟩ := ih hrest hlast (push base s)
        obtain ⟨next, rest, hnext⟩ := List.exists_cons_of_ne_nil hlast
        refine ⟨tail, htail, ?_⟩
        rw [heq, ← push_push hs hno hjoin, hnext]
        rfl

end All

end PluginWrapper.Path
