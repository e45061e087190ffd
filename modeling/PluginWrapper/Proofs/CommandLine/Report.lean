import PluginWrapper.CommandLine
import PluginWrapper.Proofs.Wrapper.Lines

/-! What is printed about a round that succeeded, line by line. Colours do not break a line. -/
namespace PluginWrapper

private theorem Colour.newline_not_mem_resume {code text : List Char} (hcode : '\n' ∉ code)
    (htext : '\n' ∉ text) : '\n' ∉ resume code text := by
  fun_induction resume code text with
  | case1 rest ih => simp_all [reset]
  | case2 c rest _ ih => simp_all
  | case3 => exact htext

private theorem Colour.isLine_paint (colour : Colour) (used : Bool) {text : String}
    (h : Wrapper.IsLine text) : Wrapper.IsLine (colour.paint used text) := by
  have hcode : '\n' ∉ colour.code := by cases colour <;> decide
  have hreset : '\n' ∉ reset := by decide
  rw [paint]
  split
  · rw [Wrapper.IsLine, String.toList_ofList]
    simp [hcode, hreset, newline_not_mem_resume hcode h]
  · exact h

namespace CommandLine
open Wrapper (IsLine lines unlines)

def nothingFound (colours : Bool) : String :=
  Colour.yellow.paint colours "No module or core declarations found"

def mark (colours : Bool) : String :=
  Colour.green.paint colours "✓"

def artifactLine (colours : Bool) (a : Artifact) : String :=
  mark colours ++ " " ++ a.source ++ " (" ++ Colour.cyan.paint colours a.pluginId ++ ")"

def total (colours : Bool) (n : Nat) (out : String) : String :=
  mark colours ++ " Generated " ++ toString n ++ " plugin wrapper(s) in " ++ out

variable {colours : Bool} {out : String} {artifacts : List Artifact}

private theorem isLine_artifactLine {a : Artifact} (hsource : IsLine a.source)
    (hid : IsLine a.pluginId) :
    IsLine (artifactLine colours a) := by
  have hmark : IsLine (mark colours) := Colour.isLine_paint _ _ (by decide)
  have hpainted : IsLine (Colour.cyan.paint colours a.pluginId) := Colour.isLine_paint _ _ hid
  have htexts : IsLine " " ∧ IsLine " (" ∧ IsLine ")" := by decide
  simp [artifactLine, Wrapper.isLine_append, hmark, hpainted, hsource, htexts]

private theorem join_map_newline (ls : List String) :
    String.join (ls.map (· ++ "\n")) = unlines ls := by
  induction ls with
  | nil => rfl
  | cons line ls ih => rw [List.map_cons, String.join_cons, ih, Wrapper.unlines]

private theorem reportText_of_ne_nil (h : artifacts ≠ []) :
    reportText colours out ⟨artifacts⟩ = unlines (artifacts.map (artifactLine colours)) ++ "\n" ++
      total colours artifacts.length out ++ "\n" := by
  have hempty : Report.isEmpty ⟨artifacts⟩ = false := by simpa [Report.isEmpty] using h
  have hline (a : Artifact) : Colour.green.paint colours "✓" ++ " " ++ a.source ++ " (" ++
      Colour.cyan.paint colours a.pluginId ++ ")\n" = artifactLine colours a ++ "\n" := by
    simp only [artifactLine, mark, String.append_assoc]
    rfl
  rw [← join_map_newline, List.map_map]
  simp only [reportText, hempty, hline, Bool.false_eq_true, if_false]
  simp only [total, mark, String.append_assoc]
  rfl

/-- Only a round without artifacts is reported by saying that nothing was found. -/
private theorem reportText_eq_nothingFound :
    reportText colours out ⟨artifacts⟩ = nothingFound colours ++ "\n" ↔ artifacts = [] := by
  refine ⟨fun h => ?_, fun h => h ▸ rfl⟩
  cases artifacts with
  | nil => rfl
  | cons a rest =>
    rw [reportText_of_ne_nil (List.cons_ne_nil a rest), List.map_cons, Wrapper.unlines,
      artifactLine] at h
    -- The mark is green, or a check, and the other line is yellow, or begins with a letter.
    have hmark : ¬ (mark colours).toList <+: (nothingFound colours ++ "\n").toList := by
      cases colours <;> decide
    refine absurd ?_ hmark
    rw [← h]
    simp only [String.append_assoc, String.toList_append]
    exact List.prefix_append _ _

/-- A line for each artifact, in the order of the report, a blank one, and the total. -/
theorem lines_reportText (h : artifacts ≠ [])
    (hlines : ∀ a ∈ artifacts, IsLine a.source ∧ IsLine a.pluginId) :
    lines (reportText colours out ⟨artifacts⟩) = artifacts.map (artifactLine colours) ++
      "" :: lines (total colours artifacts.length out ++ "\n") := by
  have hartifacts : ∀ line ∈ artifacts.map (artifactLine colours), IsLine line := by
    intro line hline
    obtain ⟨a, ha, rfl⟩ := List.mem_map.mp hline
    exact isLine_artifactLine (hlines a ha).1 (hlines a ha).2
  rw [reportText_of_ne_nil h, String.append_assoc, Wrapper.lines_append_newline,
    Wrapper.lines_unlines, Wrapper.flatMap_lines hartifacts, List.append_assoc,
    List.singleton_append]

/-- What is printed about a round over so many declarations: their artifacts line by line and their
number, or that there are none. -/
structure Printed (colours : Bool) (out : String) (artifacts : List Artifact) (declared : Nat)
    (text : String) : Prop where
  length : artifacts.length = declared
  nothing : text = nothingFound colours ++ "\n" ↔ declared = 0
  lines : 0 < declared → (∀ a ∈ artifacts, IsLine a.source ∧ IsLine a.pluginId) →
    lines text = artifacts.map (artifactLine colours) ++
      "" :: lines (total colours declared out ++ "\n")

theorem printed_reportText (colours : Bool) (out : String) (artifacts : List Artifact) :
    Printed colours out artifacts artifacts.length (reportText colours out ⟨artifacts⟩) where
  length := rfl
  nothing := reportText_eq_nothingFound.trans List.length_eq_zero_iff.symm
  lines hlength hlines := lines_reportText (List.ne_nil_of_length_pos hlength) hlines

end CommandLine
end PluginWrapper
