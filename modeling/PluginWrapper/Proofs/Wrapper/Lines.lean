import PluginWrapper.Proofs.Text.Split
import PluginWrapper.Wrapper

/-! Texts put together line by line. A line feed ends each line, so lines without one of their own
can be told from the text. -/
namespace PluginWrapper.Wrapper

theorem unlines_append (first second : List String) :
    unlines (first ++ second) = unlines first ++ unlines second := by
  induction first with
  | nil => simp [unlines]
  | cons line first ih => simp [unlines, ih, String.append_assoc]

def IsLine (s : String) : Prop := '\n' ∉ s.toList

instance (s : String) : Decidable (IsLine s) :=
  inferInstanceAs (Decidable ('\n' ∉ s.toList))

theorem isLine_append {s t : String} : IsLine (s ++ t) ↔ IsLine s ∧ IsLine t := by
  simp [IsLine, not_or]

/-- The lines of a text. Behind the last line feed comes one more. -/
def lines (text : String) : List String :=
  (Text.split '\n' text.toList).map String.ofList

theorem lines_of_isLine {s : String} (h : IsLine s) : lines s = [s] := by
  rw [lines, Text.split_of_not_mem h, List.map_singleton, String.ofList_toList]

theorem lines_append_newline (s t : String) : lines (s ++ "\n" ++ t) = lines s ++ lines t := by
  have htext : (s ++ "\n" ++ t).toList = s.toList ++ '\n' :: t.toList := by simp
  rw [lines, htext, Text.split_append_cons, List.map_append, ← lines, ← lines]

/-- What stands before a text on the same line becomes a part of its first line. -/
theorem lines_append {a : String} (h : IsLine a) (s : String) :
    ∃ first rest, lines s = first :: rest ∧ lines (a ++ s) = (a ++ first) :: rest := by
  obtain ⟨first, rest, hs, happend⟩ := Text.exists_split_append h s.toList
  refine ⟨String.ofList first, rest.map String.ofList, ?_, ?_⟩
  · rw [lines, hs, List.map_cons]
  · rw [lines, String.toList_append, happend, List.map_cons, String.ofList_append,
      String.ofList_toList]

theorem lines_unlines (ls : List String) : lines (unlines ls) = ls.flatMap lines ++ [""] := by
  induction ls with
  | nil => rfl
  | cons line ls ih =>
    rw [unlines, lines_append_newline, ih, List.flatMap_cons, List.append_assoc]

theorem flatMap_lines {ls : List String} (h : ∀ line ∈ ls, IsLine line) :
    ls.flatMap lines = ls := by
  rw [List.flatMap_def, List.map_congr_left fun line hline => lines_of_isLine (h line hline),
    ← List.flatMap_def, List.flatMap_singleton']

theorem unlines_append_inj {first second : List String} {s t : String}
    (hfirst : ∀ line ∈ first, IsLine line) (hsecond : ∀ line ∈ second, IsLine line)
    (hlength : first.length = second.length) (h : unlines first ++ s = unlines second ++ t) :
    first = second ∧ s = t := by
  induction first generalizing second with
  | nil =>
    obtain rfl := List.length_eq_zero_iff.mp hlength.symm
    simpa [unlines] using h
  | cons line first ih =>
    cases second with
    | nil => cases hlength
    | cons next second =>
      simp only [unlines, String.append_assoc] at h
      obtain ⟨rfl, hrest⟩ := Text.append_mark_inj (by simp) (hfirst line List.mem_cons_self)
        (hsecond next List.mem_cons_self) h
      obtain ⟨rfl, hst⟩ := ih (fun l hl => hfirst l (List.mem_cons_of_mem line hl))
        (fun l hl => hsecond l (List.mem_cons_of_mem line hl)) (Nat.succ.inj hlength) hrest
      exact ⟨rfl, hst⟩

theorem unlines_inj {first second : List String} (hfirst : ∀ line ∈ first, IsLine line)
    (hsecond : ∀ line ∈ second, IsLine line) (hlength : first.length = second.length)
    (h : unlines first = unlines second) : first = second :=
  (unlines_append_inj (s := "") (t := "") hfirst hsecond hlength (by rw [h])).1

end PluginWrapper.Wrapper
