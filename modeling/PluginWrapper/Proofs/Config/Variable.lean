import PluginWrapper.Config.Variable
import PluginWrapper.Proofs.Text.Blank
import PluginWrapper.Proofs.Text.Case
import PluginWrapper.Proofs.Text.Split

/-! What the names of variables lead to: a path of keys or an option, and nothing for names that do
not begin as the names of settings do. -/
namespace PluginWrapper

private theorem Literal.after?_eq_some {lead s rest : List Char} :
    after? lead s = some rest ↔ s = lead ++ rest := by
  induction lead generalizing s with
  | nil => simp [after?]
  | cons c lead ih =>
    cases s with
    | nil => simp [after?]
    | cons d s =>
      rw [after?]
      by_cases h : c = d
      · simp [h, ih]
      · simp [h, Ne.symm h]

namespace Variable

/-- A name as it is compared with others: in lower case, and without the blanks around it. -/
def spelled (name : String) : List Char :=
  Text.lowerAscii (Text.trim name.toList)

private theorem after?_append {lead lead' : List Char} (rest : List Char)
    (h : Text.lowerAscii lead' = Text.lowerAscii lead) :
    after? lead (lead' ++ rest) = some rest := by
  have hlength : lead'.length = lead.length := by
    simpa [Text.lowerAscii] using congrArg List.length h
  have hlead := Literal.after?_eq_some.mpr (List.append_nil (Text.lowerAscii lead)).symm
  rw [after?, ← hlength, List.take_left, List.drop_left, h, hlead]
  rfl

private theorem after?_eq_none {lead name : List Char}
    (h : ¬ Text.lowerAscii lead <+: Text.lowerAscii name) : after? lead name = none := by
  rw [after?, Option.map_eq_none_iff, Option.eq_none_iff_forall_ne_some]
  intro rest hrest
  have htake : Text.lowerAscii lead <+: Text.lowerAscii (name.take lead.length) :=
    ⟨rest, (Literal.after?_eq_some.mp hrest).symm⟩
  exact h (htake.trans ((List.take_prefix lead.length name).map Char.toLower))

private theorem after?_eq_some {lead name rest : List Char} :
    after? lead name = some rest ↔
      ∃ lead', name = lead' ++ rest ∧ Text.lowerAscii lead' = Text.lowerAscii lead := by
  constructor
  · intro h
    obtain ⟨tail, htail, rfl⟩ := Option.map_eq_some_iff.mp h
    have hlead := Literal.after?_eq_some.mp htail
    -- What was cut off is no longer than the lead, so nothing follows it there.
    have hlength := congrArg List.length hlead
    simp only [Text.lowerAscii, List.length_map, List.length_append, List.length_take] at hlength
    obtain rfl := List.eq_nil_of_length_eq_zero (l := tail) (by omega)
    rw [List.append_nil] at hlead
    exact ⟨name.take lead.length, (List.take_append_drop lead.length name).symm, hlead⟩
  · rintro ⟨lead', rfl, hlead⟩
    exact after?_append rest hlead

private theorem lowerAscii_pointed (s : List Char) :
    Text.lowerAscii (pointed s) = pointed (Text.lowerAscii s) := by
  have hmark (c : Char) : c.toLower = '_' ↔ c = '_' := Text.toLower_eq_iff (by decide) c
  fun_induction pointed s with
  | case1 rest ih => exact congrArg ('.' :: ·) ih
  | case2 c rest hnot ih =>
    have hcons : Text.lowerAscii (c :: rest) = c.toLower :: Text.lowerAscii rest := rfl
    rw [hcons, pointed, ← ih]
    · rfl
    · intro tail hc hrest
      obtain ⟨d, tail', rfl, hd, -⟩ := List.map_eq_cons_iff.mp hrest
      exact hnot tail' ((hmark c).mp hc) (by rw [(hmark d).mp hd])
  | case3 => rfl

private theorem parts?_lowerAscii (s : List Char) :
    parts? (Text.lowerAscii s) = (parts? s).map (List.map Text.lowerAscii) := by
  have hpoint (c : Char) : c.toLower = '.' ↔ c = '.' := Text.toLower_eq_iff (by decide) c
  have hempty (parts : List (List Char)) :
      (parts.map Text.lowerAscii).contains [] = parts.contains [] := by
    simp [Text.lowerAscii]
  simp only [parts?, ← Text.lowerAscii_trim, ← Text.map_lowerAscii_split hpoint, hempty]
  split <;> rfl

/-- The keys of a setting depend on the spelled name alone. -/
theorem keyPath?_of_spelled {name : String} {rest : List Char}
    (h : spelled name = Text.lowerAscii lead.toList ++ rest)
    (hrest : ¬ "options__".toList <+: rest) :
    keyPath? name = (parts? (pointed rest)).map (List.map String.ofList) := by
  obtain ⟨lead', rest', hname, hlead, rfl⟩ := List.map_eq_append_iff.mp h
  have hoptions : after? "options__".toList rest' = none := after?_eq_none hrest
  have hparts : parts? (pointed (rest'.map Char.toLower)) = _ :=
    (congrArg parts? (lowerAscii_pointed rest')).symm.trans (parts?_lowerAscii _)
  rw [keyPath?, hname, after?_append rest' hlead, hparts]
  simp only [Option.bind_eq_bind, Option.bind_some, hoptions]
  cases parts? (pointed rest') with
  | none => rfl
  | some parts => simp [Text.lowerAscii]

theorem keyPath?_of_not_lead {name : String}
    (h : ¬ Text.lowerAscii lead.toList <+: spelled name) : keyPath? name = none := by
  rw [keyPath?, after?_eq_none h]
  rfl

theorem option?_of_not_lead {name : String}
    (h : ¬ Text.lowerAscii optionsLead.toList <+: spelled name) : option? name = none := by
  rw [option?, after?_eq_none h]
  rfl

variable {name : String} {lead' rest : List Char}

theorem keyPath?_of_option (h : Text.trim name.toList = lead' ++ rest)
    (hlead : Text.lowerAscii lead' = Text.lowerAscii optionsLead.toList) :
    keyPath? name = none := by
  have hparts : Text.lowerAscii lead' =
      Text.lowerAscii lead.toList ++ Text.lowerAscii "options__".toList := hlead
  obtain ⟨a, b, rfl, ha, hb⟩ := List.map_eq_append_iff.mp hparts
  rw [keyPath?, h, List.append_assoc, after?_append (b ++ rest) ha]
  simp only [Option.bind_eq_bind, Option.bind_some, after?_append rest hb, Option.isSome_some,
    if_true]
  rfl

/-- A name that begins as those of options do makes no setting, whatever white space it ends in. -/
theorem keyPath?_of_optionsLead
    (h : Text.lowerAscii optionsLead.toList <+: Text.lowerAscii name.toList) :
    keyPath? name = none := by
  have hall : (Text.lowerAscii optionsLead.toList).all (!Text.isBlank ·) = true := by decide
  have hblank : ∀ c ∈ Text.lowerAscii optionsLead.toList, Text.isBlank c = false := fun c hc => by
    simpa using List.all_eq_true.mp hall c hc
  have hspelled : Text.lowerAscii optionsLead.toList <+: spelled name := by
    rw [spelled, Text.lowerAscii_trim]
    exact Text.prefix_trim hblank h
  obtain ⟨tail, htail⟩ := hspelled
  obtain ⟨lead', rest, hname, hlead, -⟩ := List.map_eq_append_iff.mp htail.symm
  exact keyPath?_of_option hname hlead

/-- What a variable that sets an option leaves of its name. If a part between points is empty, the
variable is passed over. -/
def Leaves (name rest : String) : Prop :=
  ∃ lead' rest', Text.trim name.toList = lead' ++ rest' ∧
    Text.lowerAscii lead' = "cubegen__options__".toList ∧ rest.toList = Text.trim rest' ∧
    [] ∉ Text.split '.' rest.toList

theorem option?_eq_some {name key : String} :
    option? name = some key ↔ ∃ rest, Leaves name rest ∧ optionKey? rest = some key := by
  have hparts (rest : List Char) : (parts? rest).isSome ↔ [] ∉ Text.split '.' (Text.trim rest) := by
    simp [parts?]
  simp only [option?, Option.bind_eq_bind, Option.bind_eq_some_iff, after?_eq_some]
  constructor
  · rintro ⟨rest, ⟨lead', hname, hlead⟩, parts, hsome, hkey⟩
    refine ⟨String.ofList (Text.trim rest), ⟨lead', rest, hname, hlead, by simp, ?_⟩, hkey⟩
    rw [String.toList_ofList, ← hparts, hsome]
    rfl
  · rintro ⟨rest, ⟨lead', rest', hname, hlead, hrest, hne⟩, hkey⟩
    rw [hrest, ← hparts] at hne
    obtain ⟨parts, hsome⟩ := Option.isSome_iff_exists.mp hne
    refine ⟨rest', ⟨lead', hname, hlead⟩, parts, hsome, ?_⟩
    rw [← hrest, String.ofList_toList]
    exact hkey

theorem option?_of_nothing_left (h : spelled name = Text.lowerAscii optionsLead.toList) :
    option? name = none := by
  have hrest := after?_append [] h
  rw [List.append_nil] at hrest
  rw [option?, hrest]
  rfl

theorem option?_of_option (h : Text.trim name.toList = lead' ++ rest)
    (hlead : Text.lowerAscii lead' = Text.lowerAscii optionsLead.toList) (hne : rest ≠ [])
    (hpoint : '.' ∉ rest) (hblank : ∀ c ∈ rest, Text.isBlank c = false) :
    option? name = optionKey? (String.ofList rest) := by
  have htrim := Text.trim_of_isTrimmed (Text.isTrimmed_of_forall hblank)
  have hparts : parts? rest = some [rest] := by
    simp [parts?, htrim, Text.split_of_not_mem hpoint, hne.symm]
  rw [option?, h, after?_append rest hlead]
  simp only [Option.bind_eq_bind, Option.bind_some, hparts, htrim]

end Variable

end PluginWrapper
