import PluginWrapper.Proofs.Text.Split
import PluginWrapper.Wrapper

/-! The annotations of dependencies, read back. The quotes around an id and a version end them, so
that whatever else stands in these values, the text tells where each annotation begins. -/
namespace PluginWrapper.Dependency

/-- Neither value can end before its closing quote. -/
structure IsQuotable (x : Dependency) : Prop where
  id : '"' ∉ x.id.toList
  version : '"' ∉ x.version.toList

private theorem annotation_append (x : Dependency) (s : String) :
    x.annotation ++ s = "@Dependency(id = \"" ++ (x.id ++ ("\", version = \"" ++ (x.version ++
      ("\", optional = " ++ ((if x.optional then "true" else "false") ++ (")" ++ s)))))) := by
  unfold annotation
  simp only [String.append_assoc]

private theorem optional_inj {a b : Bool} {s t : String}
    (h : (if a then "true" else "false") ++ (")" ++ s) =
      (if b then "true" else "false") ++ (")" ++ t)) : a = b ∧ s = t := by
  cases a <;> cases b <;> simp [← String.toList_inj] at h ⊢ <;> exact h

private theorem annotation_append_inj {x y : Dependency} {s t : String} (hx : x.IsQuotable)
    (hy : y.IsQuotable) (h : x.annotation ++ s = y.annotation ++ t) : x = y ∧ s = t := by
  rw [annotation_append, annotation_append, String.append_right_inj] at h
  obtain ⟨hid, hafterId⟩ := Text.append_mark_inj (by simp) hx.id hy.id h
  obtain ⟨hversion, hafterVersion⟩ := Text.append_mark_inj (by simp) hx.version hy.version hafterId
  obtain ⟨hoptional, hrest⟩ := optional_inj hafterVersion
  obtain ⟨id, version, optional⟩ := x
  obtain rfl : id = y.id := hid
  obtain rfl : version = y.version := hversion
  obtain rfl : optional = y.optional := hoptional
  exact ⟨rfl, hrest⟩

def continuation : List Dependency → String
  | [] => ""
  | xs => ",\n" ++ annotations xs

theorem annotations_cons (x : Dependency) (xs : List Dependency) :
    annotations (x :: xs) = x.annotation ++ continuation xs := by
  cases xs with
  | nil => simp [annotations, continuation]
  | cons next xs =>
    simp only [annotations, continuation, List.map_cons, String.intercalate_cons_cons,
      String.append_assoc]

private theorem annotations_append {xs ys : List Dependency} (hxs : xs ≠ []) (hys : ys ≠ []) :
    annotations (xs ++ ys) = annotations xs ++ ",\n" ++ annotations ys := by
  rw [annotations, List.map_append, String.intercalate_append_of_ne_nil (by simpa) (by simpa)]
  rfl

/-- One more dependency comes behind a comma, unless it is the first. -/
theorem annotations_concat (xs : List Dependency) (x : Dependency) :
    annotations (xs ++ [x]) = annotations xs ++
      (if 0 < xs.length then ",\n" else "") ++ x.annotation := by
  have hone : annotations [x] = x.annotation := String.intercalate_singleton
  cases xs with
  | nil => simp [annotations]
  | cons first rest =>
    rw [annotations_append (by simp) (by simp), hone, if_pos (by simp)]

private theorem annotations_cons_ne (x : Dependency) (xs : List Dependency) (s t : String) :
    annotations (x :: xs) ++ s ≠ annotations [] ++ ("\x7d" ++ t) := by
  intro h
  rw [annotations_cons, String.append_assoc, annotation_append] at h
  simp [annotations, ← String.toList_inj] at h

/-- A brace behind the annotations shows that no more of them follow. -/
theorem annotations_append_inj {xs ys : List Dependency} {s t : String}
    (hxs : ∀ x ∈ xs, x.IsQuotable) (hys : ∀ y ∈ ys, y.IsQuotable)
    (h : annotations xs ++ ("\x7d" ++ s) = annotations ys ++ ("\x7d" ++ t)) :
    xs = ys ∧ s = t := by
  induction xs generalizing ys with
  | nil =>
    cases ys with
    | nil => simpa [annotations] using h
    | cons y ys => exact absurd h.symm (annotations_cons_ne y ys _ s)
  | cons x xs ih =>
    cases ys with
    | nil => exact absurd h (annotations_cons_ne x xs _ t)
    | cons y ys =>
      simp only [annotations_cons, String.append_assoc] at h
      obtain ⟨rfl, hrest⟩ := annotation_append_inj (hxs x List.mem_cons_self)
        (hys y List.mem_cons_self) h
      -- A comma or the brace comes next, and which one it is has to be the same on both sides.
      cases xs with
      | nil =>
        cases ys with
        | nil => simpa [continuation] using hrest
        | cons y ys => simp [continuation, ← String.toList_inj] at hrest
      | cons x' xs =>
        cases ys with
        | nil => simp [continuation, ← String.toList_inj] at hrest
        | cons y ys =>
          simp only [continuation, String.append_assoc, String.append_right_inj] at hrest
          obtain ⟨htail, hst⟩ := ih (fun z hz => hxs z (List.mem_cons_of_mem x hz))
            (fun z hz => hys z (List.mem_cons_of_mem x hz)) hrest
          exact ⟨by rw [htail], hst⟩

private theorem annotations_eq_empty {xs : List Dependency} : annotations xs = "" ↔ xs = [] := by
  cases xs with
  | nil => simp [annotations]
  | cons x xs =>
    rw [annotations_cons, annotation_append]
    simp [← String.toList_inj]

/-- Dependencies can be told from their annotations, whatever stands in their ids and versions but
quotes. Two lists in a row have the annotations of both with a comma between them, and none are
written for the empty list alone. -/
theorem annotations_tell_dependencies (xs ys : List Dependency) :
    ((∀ x ∈ xs, x.IsQuotable) → (∀ y ∈ ys, y.IsQuotable) →
      annotations xs = annotations ys → xs = ys) ∧
    (xs ≠ [] → ys ≠ [] → annotations (xs ++ ys) = annotations xs ++ ",\n" ++ annotations ys) ∧
    (annotations xs = "" ↔ xs = []) := by
  refine ⟨fun hxs hys h => ?_, annotations_append, annotations_eq_empty⟩
  have hbrace : annotations xs ++ ("\x7d" ++ "") = annotations ys ++ ("\x7d" ++ "") := by rw [h]
  exact (annotations_append_inj hxs hys hbrace).1

/-- A version that looks like the end of one annotation and the beginning of the next. -/
theorem annotations_tell_dependencies_apart :
    let chat : Dependency := ⟨"chat", "),\n@Dependency(id = core, version = 1", true⟩
    let core : Dependency := ⟨"core", "1", true⟩
    chat.IsQuotable ∧ core.IsQuotable ∧
    annotations [chat, core] = annotations [chat] ++ ",\n" ++ annotations [core] ∧
    annotations [chat] ≠ annotations [chat, core] ∧ annotations [chat] ≠ "" := by
  intro chat core
  have hchat : chat.IsQuotable := ⟨by decide, by decide⟩
  have hcore : core.IsQuotable := ⟨by decide, by decide⟩
  obtain ⟨-, happend, hempty⟩ := annotations_tell_dependencies [chat] [core]
  obtain ⟨htell, -⟩ := annotations_tell_dependencies [chat] [chat, core]
  refine ⟨hchat, hcore, happend (by simp) (by simp), fun h => ?_, mt hempty.mp (by simp)⟩
  have hsame := htell (by simp [hchat]) (by simp [hchat, hcore]) h
  simp at hsame

end PluginWrapper.Dependency
