import Mathlib.Data.List.Nodup
import PluginWrapper.Proofs.Round.Memory
import PluginWrapper.Proofs.Text.Split

/-! Rounds over declarations that all differ in name: each wrapper class keeps its own source, and
the order of the declarations does not matter. -/
namespace PluginWrapper

/-- The last dot of a qualified name stands before the simple name of the class. -/
private theorem Declaration.sourceName_inj {d d' : Declaration} (hd : '.' ∉ d.name.toList)
    (hd' : '.' ∉ d'.name.toList) (h : d.sourceName = d'.sourceName) :
    d.package = d'.package ∧ d.name = d'.name := by
  have hlist (x : Declaration) :
      x.sourceName.toList = x.package.toList ++ '.' :: ("Plugin".toList ++ x.name.toList) := by
    simp [sourceName]
  have hclass {x : Declaration} (hx : '.' ∉ x.name.toList) :
      '.' ∉ "Plugin".toList ++ x.name.toList := by
    simp [hx]
  have hnames := congrArg String.toList h
  rw [hlist, hlist] at hnames
  obtain ⟨hpackage, hname⟩ := Text.append_cons_inj_last (hclass hd) (hclass hd') hnames
  exact ⟨String.toList_inj.mp hpackage, String.toList_inj.mp (List.append_cancel_left hname)⟩

-- With a dot in a simple name two classes can get one name.
example : (⟨"b.Pluginc", "a", .core, []⟩ : Declaration).sourceName =
    (⟨"c", "a.Pluginb", .core, []⟩ : Declaration).sourceName := by decide

namespace Round

def Distinct (ds : List Declaration) : Prop := (ds.map Declaration.sourceName).Nodup

private theorem distinct_of_names {ds : List Declaration}
    (hdistinct : (ds.map fun d => (d.package, d.name)).Nodup)
    (hnames : ∀ d ∈ ds, '.' ∉ d.name.toList) : Distinct ds := by
  refine List.Nodup.map_on ?_ (List.Nodup.of_map _ hdistinct)
  intro d hd d' hd' h
  obtain ⟨hpackage, hname⟩ := Declaration.sourceName_inj (hnames d hd) (hnames d' hd') h
  exact List.inj_on_of_nodup_map hdistinct hd hd' (Prod.ext hpackage hname)

theorem Distinct.perm {ds ds' : List Declaration} (h : Distinct ds) (hperm : ds'.Perm ds) :
    Distinct ds' :=
  (hperm.map Declaration.sourceName).nodup_iff.mpr h

variable {ds : List Declaration} {d : Declaration}

/-- Of the declarations at all places only the one at this place has its name. -/
theorem filter_of_only {i : Nat} (hd : ds[i]? = some d)
    (honly : ∀ j d', ds[j]? = some d' → d'.sourceName = d.sourceName → j = i) :
    ds.filter (·.sourceName = d.sourceName) = [d] := by
  induction ds generalizing i with
  | nil => cases hd
  | cons first ds ih =>
    cases i with
    | zero =>
      obtain rfl : first = d := Option.some.inj hd
      have hrest : ds.filter (·.sourceName = first.sourceName) = [] := by
        refine List.filter_eq_nil_iff.mpr fun d' hd' hname => ?_
        obtain ⟨j, hj⟩ := List.mem_iff_getElem?.mp hd'
        cases honly (j + 1) d' hj (by simpa using hname)
      rw [List.filter_cons_of_pos (by simp), hrest]
    | succ i =>
      have hfirst : first.sourceName ≠ d.sourceName := fun hname => by cases honly 0 first rfl hname
      rw [List.filter_cons_of_neg (by simpa using hfirst)]
      exact ih hd fun j d' hj hname => Nat.succ.inj (honly (j + 1) d' hj hname)

private theorem filter_of_distinct (h : Distinct ds) (hd : d ∈ ds) :
    ds.filter (·.sourceName = d.sourceName) = [d] := by
  obtain ⟨i, hi⟩ := List.mem_iff_getElem?.mp hd
  refine filter_of_only hi fun j d' hj hname => ?_
  have hlt : j < (ds.map Declaration.sourceName).length := by
    simpa using (List.getElem?_eq_some_iff.mp hj).1
  exact (List.getElem?_inj hlt h).mp (by simp [hi, hj, hname])

/-- A declaration that shares its name with no other keeps its own source. -/
theorem contents?_source_of_only (h : ds.filter (·.sourceName = d.sourceName) = [d])
    (options : OptionTable) (m : Memory) :
    (run Memory.sink options ds m).state.contents? (.source d.sourceName) =
      some (d.wrapper options) := by
  have hperm := (generationOrder_perm ds).filter (·.sourceName = d.sourceName)
  rw [h, List.perm_singleton] at hperm
  rw [(run_memory options ds m).2, contents?_source_entries, hperm]
  rfl

private theorem contents?_source_of_mem (h : Distinct ds) (hd : d ∈ ds) (options : OptionTable)
    (m : Memory) :
    (run Memory.sink options ds m).state.contents? (.source d.sourceName) =
      some (d.wrapper options) :=
  contents?_source_of_only (filter_of_distinct h hd) options m

private theorem contents?_source_of_not_mem {name : String} (h : ∀ d ∈ ds, d.sourceName ≠ name)
    (options : OptionTable) (m : Memory) :
    (run Memory.sink options ds m).state.contents? (.source name) =
      m.contents? (.source name) := by
  have hnone : (Declaration.generationOrder ds).filter (·.sourceName = name) = [] :=
    List.filter_eq_nil_iff.mpr fun d hd => by
      simpa using h d ((generationOrder_perm ds).mem_iff.mp hd)
  rw [(run_memory options ds m).2, contents?_source_entries, hnone]
  rfl

private theorem contents?_resource (options : OptionTable) (ds : List Declaration) (m : Memory)
    (path : String) :
    (run Memory.sink options ds m).state.contents? (.resource path) =
      if ∃ d ∈ ds, d.resourceName options = path then some []
      else m.contents? (.resource path) := by
  rw [(run_memory options ds m).2, contents?_resource_entries]
  simp only [(generationOrder_perm ds).mem_iff]

/-- A memory cannot tell in which order the declarations came. -/
theorem state_perm {ds' : List Declaration} (h : Distinct ds) (hperm : ds'.Perm ds)
    (options : OptionTable) (m : Memory) :
    (run Memory.sink options ds' m).state = (run Memory.sink options ds m).state := by
  apply Memory.ext_contents?
  intro slot
  cases slot with
  | source name =>
    by_cases hname : ∃ d ∈ ds, d.sourceName = name
    · obtain ⟨d, hd, rfl⟩ := hname
      rw [contents?_source_of_mem h hd,
        contents?_source_of_mem (h.perm hperm) (hperm.mem_iff.mpr hd)]
    · simp only [not_exists, not_and] at hname
      rw [contents?_source_of_not_mem hname,
        contents?_source_of_not_mem fun d hd => hname d (hperm.mem_iff.mp hd)]
  | resource path =>
    rw [contents?_resource, contents?_resource]
    simp only [hperm.mem_iff]

private theorem size_sources (h : Distinct ds) (options : OptionTable) :
    (run Memory.sink options ds Memory.empty).state.sources.size = ds.length := by
  rw [← List.length_map Declaration.sourceName]
  apply Memory.size_sources h
  intro name
  by_cases hname : ∃ d ∈ ds, d.sourceName = name
  · obtain ⟨d, hd, rfl⟩ := hname
    simp [contents?_source_of_mem h hd, List.mem_map_of_mem hd]
  · have hnot : name ∉ ds.map Declaration.sourceName := by simpa using hname
    simp only [not_exists, not_and] at hname
    rw [contents?_source_of_not_mem hname]
    simp [hnot, Memory.contents?, Memory.empty]

/-- Declarations that differ in package or name, none of them with a dot in its name, lead to as
many sources, each with the wrapper of its own declaration. Their order shows in the report
alone. -/
theorem memory_order_irrelevant (options : OptionTable) (ds : List Declaration)
    (hdistinct : (ds.map fun d => (d.package, d.name)).Nodup)
    (hnames : ∀ d ∈ ds, '.' ∉ d.name.toList) :
    (run Memory.sink options ds Memory.empty).state.sources.size = ds.length ∧
    (∀ d ∈ ds, (run Memory.sink options ds Memory.empty).state.contents?
        (.source (d.package ++ ".Plugin" ++ d.name)) =
      some (Bytes.ofString (Wrapper.source d (.resolve d options)))) ∧
    ∀ ds', ds'.Perm ds → ∃ report report',
      (run Memory.sink options ds Memory.empty).result = .ok report ∧
      (run Memory.sink options ds' Memory.empty).result = .ok report' ∧
      report'.artifacts.Perm report.artifacts ∧
      (run Memory.sink options ds' Memory.empty).state =
        (run Memory.sink options ds Memory.empty).state := by
  have h := distinct_of_names hdistinct hnames
  refine ⟨size_sources h options, fun d hd => contents?_source_of_mem h hd options _, ?_⟩
  intro ds' hperm
  refine ⟨_, _, (run_memory options ds _).1, (run_memory options ds' _).1, ?_,
    state_perm h hperm options _⟩
  have horder : (Declaration.generationOrder ds').Perm (Declaration.generationOrder ds) :=
    (generationOrder_perm ds').trans (hperm.trans (generationOrder_perm ds).symm)
  exact horder.map (reported options)

private def namesakes : List Declaration :=
  [⟨"Travel", "org.example.land", .core, []⟩, ⟨"Travel", "org.example.sea", .module, []⟩]

/-- Two classes of one name in two packages, which share a language resource. -/
theorem memory_order_irrelevant_namesakes :
    (namesakes.map fun d => (d.package, d.name)).Nodup ∧
    (∀ d ∈ namesakes, '.' ∉ d.name.toList) ∧
    (run Memory.sink .empty namesakes Memory.empty).state.sources.size = 2 ∧
    (run Memory.sink .empty namesakes.reverse Memory.empty).state =
      (run Memory.sink .empty namesakes Memory.empty).state := by
  have hdistinct : (namesakes.map fun d => (d.package, d.name)).Nodup := by decide
  have hnames : ∀ d ∈ namesakes, '.' ∉ d.name.toList := by decide
  obtain ⟨hsize, -, hperm⟩ := memory_order_irrelevant .empty namesakes hdistinct hnames
  obtain ⟨_, _, -, -, -, hstate⟩ := hperm namesakes.reverse (List.reverse_perm namesakes)
  exact ⟨hdistinct, hnames, hsize, hstate⟩

end Round

end PluginWrapper
