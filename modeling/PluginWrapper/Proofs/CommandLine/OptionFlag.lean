import PluginWrapper.Config
import PluginWrapper.Proofs.CommandLine.Spelling
import PluginWrapper.Proofs.OptionTable
import PluginWrapper.Proofs.Text.Blank
import PluginWrapper.Proofs.Text.Split

/-! What a flag gives, stated by how its text is put together, and that flags are read as just
this. -/
namespace PluginWrapper

namespace OptionFlag

def IsBlank (s : String) : Prop := ∀ c ∈ s.toList, Text.isBlank c = true

/-- The name of an option that a flag can give. -/
structure IsKey (key : String) : Prop where
  ne_empty : key ≠ ""
  no_sign : '=' ∉ key.toList
  trimmed : Text.IsTrimmed key.toList

/-- The flag gives this option this value. There can be blanks around the key, and none of the value
is lost. -/
def Gives (raw key value : String) : Prop :=
  IsKey key ∧ ∃ a b, IsBlank a ∧ IsBlank b ∧ raw = a ++ key ++ b ++ "=" ++ value

variable {raw key value : String}

private theorem IsBlank.no_sign {s : String} (h : IsBlank s) : '=' ∉ s.toList := by
  intro hmem
  exact absurd (h '=' hmem) (by decide)

private theorem Gives.exists_before (h : Gives raw key value) :
    ∃ before, '=' ∉ before.toList ∧ Text.trim before.toList = key.toList ∧
      raw = before ++ "=" ++ value := by
  obtain ⟨hkey, a, b, ha, hb, rfl⟩ := h
  have htrim : Text.trim (a ++ key ++ b).toList = key.toList :=
    Text.trim_eq_iff.mpr ⟨hkey.trimmed, a.toList, b.toList, ha, hb, by simp⟩
  refine ⟨a ++ key ++ b, ?_, htrim, rfl⟩
  simp [ha.no_sign, hkey.no_sign, hb.no_sign]

private theorem cut?_of_before {before : String} (hbefore : '=' ∉ before.toList)
    (hraw : raw = before ++ "=" ++ value) :
    Text.cut? '=' raw.toList = some (before.toList, value.toList) := by
  have hlist : raw.toList = before.toList ++ '=' :: value.toList := by simp [hraw]
  rw [hlist, Text.cut?_append_cons hbefore]

private theorem parse_of_gives (h : Gives raw key value) : parse raw = .ok (key, value) := by
  obtain ⟨before, hbefore, htrim, hraw⟩ := h.exists_before
  rw [parse, cut?_of_before hbefore hraw]
  simp only [htrim]
  cases hkey : key.toList with
  | nil => exact absurd (String.toList_inj.mp hkey) h.1.ne_empty
  | cons c rest => simp [← hkey]

/-- What comes of a flag: an option, or an error if there is no sign of equality, or nothing but
blanks before the first. -/
inductive Yields (raw : String) : Except Error (String × String) → Prop where
  | option {key value : String} : Gives raw key value → Yields raw (.ok (key, value))
  | noValue : '=' ∉ raw.toList → Yields raw (.error (.noValue raw))
  | emptyKey {before value : String} :
    raw = before ++ "=" ++ value → '=' ∉ before.toList → IsBlank before →
      Yields raw (.error (.emptyKey raw))

private theorem Yields.parse_eq {r : Except Error (String × String)} (h : Yields raw r) :
    parse raw = r := by
  cases h with
  | option hgives => exact parse_of_gives hgives
  | noValue hsign => rw [parse, Text.cut?_eq_none.mpr hsign]
  | @emptyKey before _ hraw hbefore hblank =>
    have htrim : Text.trim before.toList = [] :=
      Text.trim_eq_iff.mpr ⟨⟨nofun, nofun⟩, before.toList, [], hblank, nofun, by simp⟩
    rw [parse, cut?_of_before hbefore hraw]
    simp only [htrim]

/-- The key is what trimming leaves of the text before the first sign of equality. -/
private theorem gives_of_append {before value : List Char} (hbefore : '=' ∉ before)
    (hkey : Text.trim before ≠ []) (hraw : raw.toList = before ++ '=' :: value) :
    Gives raw (String.ofList (Text.trim before)) (String.ofList value) := by
  obtain ⟨a, b, ha, hb, htrim⟩ := Text.exists_trim before
  refine ⟨⟨by simpa using hkey, ?_, ?_⟩, String.ofList a, String.ofList b, ?_, ?_, ?_⟩
  · rw [String.toList_ofList]
    exact fun hsign => hbefore (htrim ▸ List.mem_append_left b (List.mem_append_right a hsign))
  · rw [String.toList_ofList]
    exact Text.isTrimmed_trim before
  · rwa [IsBlank, String.toList_ofList]
  · rwa [IsBlank, String.toList_ofList]
  · rw [← String.ofList_append, ← String.ofList_append, ← htrim, ← String.toList_inj, hraw]
    simp

private theorem exists_yields (raw : String) : ∃ r, Yields raw r := by
  by_cases hsign : '=' ∈ raw.toList
  · obtain ⟨before, value, hraw, hbefore⟩ := List.eq_append_cons_of_mem hsign
    by_cases hempty : Text.trim before = []
    · obtain ⟨a, b, ha, hb, htrim⟩ := Text.exists_trim before
      rw [hempty, List.append_nil] at htrim
      have htext : raw = String.ofList before ++ "=" ++ String.ofList value := by
        rw [← String.toList_inj, hraw]
        simp
      refine ⟨_, .emptyKey htext (by rwa [String.toList_ofList]) ?_⟩
      rw [IsBlank, String.toList_ofList, htrim]
      exact List.forall_mem_append.mpr ⟨ha, hb⟩
    · exact ⟨_, .option (gives_of_append hbefore hempty hraw)⟩
  · exact ⟨_, .noValue hsign⟩

theorem parse_eq_iff {r : Except Error (String × String)} : parse raw = r ↔ Yields raw r := by
  obtain ⟨r', hyields⟩ := exists_yields raw
  constructor
  · rintro rfl
    rwa [hyields.parse_eq]
  · exact Yields.parse_eq

theorem parse_eq_ok : parse raw = .ok (key, value) ↔ Gives raw key value := by
  rw [parse_eq_iff]
  constructor
  · rintro (hgives | _ | _)
    exact hgives
  · exact .option

theorem mapM_parse_eq_ok {flags : List String} {pairs : List (String × String)} :
    flags.mapM parse = .ok pairs ↔
      List.Forall₂ (fun raw pair => Gives raw pair.1 pair.2) flags pairs := by
  simp only [mapM_eq_ok, ← parse_eq_ok]

private theorem Gives.unique {key' value' : String} (h : Gives raw key value)
    (h' : Gives raw key' value') :
    key = key' ∧ value = value' := by
  have hpair := Except.ok.inj ((parse_of_gives h).symm.trans (parse_of_gives h'))
  exact Prod.mk.inj hpair

private theorem mapError_message_eq {message : String} :
    (parse raw).mapError Error.message = .error message ↔
      ∃ e, Yields raw (.error e) ∧ e.message = message := by
  simp only [← parse_eq_iff]
  cases parse raw <;> simp [Except.mapError]

private theorem message_noValue_ne (raw raw' : String) :
    (Error.noValue raw).message ≠ (Error.emptyKey raw').message := by
  unfold Error.message
  intro h
  simp [← String.toList_inj] at h

private theorem mapError_noValue :
    (parse raw).mapError Error.message = .error (Error.noValue raw).message ↔
    '=' ∉ raw.toList := by
  rw [mapError_message_eq]
  constructor
  · rintro ⟨_, _ | hsign | _, hmessage⟩
    · exact hsign
    · exact absurd hmessage.symm (message_noValue_ne raw raw)
  · exact fun hsign => ⟨_, .noValue hsign, rfl⟩

private theorem mapError_emptyKey :
    (parse raw).mapError Error.message = .error (Error.emptyKey raw).message ↔
      ∃ before value, raw = before ++ "=" ++ value ∧ '=' ∉ before.toList ∧ IsBlank before := by
  rw [mapError_message_eq]
  constructor
  · rintro ⟨_, _ | _ | ⟨hraw, hbefore, hblank⟩, hmessage⟩
    · exact absurd hmessage (message_noValue_ne raw raw)
    · exact ⟨_, _, hraw, hbefore, hblank⟩
  · rintro ⟨before, value, hraw, hbefore, hblank⟩
    exact ⟨_, .emptyKey hraw hbefore hblank, rfl⟩

private theorem exists_error_of_not_gives (h : ∀ key value, ¬ Gives raw key value) :
    ∃ e, parse raw = .error e ∧ e ∈ [Error.noValue raw, Error.emptyKey raw] := by
  obtain ⟨r, hyields⟩ := exists_yields raw
  have hparse := hyields.parse_eq
  cases hyields with
  | option hgives => exact absurd hgives (h _ _)
  | noValue => exact ⟨_, hparse, by simp⟩
  | emptyKey => exact ⟨_, hparse, by simp⟩

open Arguments (Spells InOrder givenFlags) in
/-- A flag gives an option just when its text is put together as that of flags is, and its key and
its value are then told by the text. Any other flag is an error. Flags on a command line become the
options of the request, in their order, and of several values for one key the last one counts. -/
theorem flags_give_options :
    (∀ raw : String,
      let noValue := "expected KEY=VALUE, got '" ++ raw ++ "'"
      let emptyKey := "option key is empty in '" ++ raw ++ "'"
      (∀ key value, parse raw = .ok (key, value) ↔ Gives raw key value) ∧
      (∀ key value, Gives raw key value →
        (∀ key' value', Gives raw key' value' → key = key' ∧ value = value') ∧
        ∃ before, '=' ∉ before.toList ∧ raw = before ++ "=" ++ value) ∧
      ((∀ key value, ¬ Gives raw key value) →
        ∃ e, parse raw = .error e ∧ e.message ∈ [noValue, emptyKey]) ∧
      ((parse raw).mapError Error.message = .error noValue ↔ '=' ∉ raw.toList) ∧
      ((parse raw).mapError Error.message = .error emptyKey ↔
        ∃ before value, raw = before ++ "=" ++ value ∧ '=' ∉ before.toList ∧ IsBlank before)) ∧
    ∀ (flags : List String) (pairs : List (String × String)),
      List.Forall₂ (fun raw pair => Gives raw pair.1 pair.2) flags pairs →
      flags.mapM parse = .ok pairs ∧
      (∀ (config : Config) (key : String), (config.withOptions pairs).options.get? key =
        (pairs.reverse.lookup key).or (config.options.get? key)) ∧
      ∀ action arguments given, Spells action arguments given → InOrder given →
        (∀ p ∈ action.required, p ∈ given.map Prod.fst) → givenFlags given = flags →
        ∃ request inputs, Arguments.parse (action.text :: arguments) = .ok request ∧
          request.inputs? = some inputs ∧ inputs.options = pairs := by
  refine ⟨fun raw => ⟨fun _ _ => parse_eq_ok, fun key value h => ?_, fun hnone => ?_,
    mapError_noValue, mapError_emptyKey⟩, fun flags pairs h => ⟨mapM_parse_eq_ok.mpr h, ?_, ?_⟩⟩
  · obtain ⟨before, hbefore, -, hraw⟩ := h.exists_before
    exact ⟨fun _ _ h' => h.unique h', before, hbefore, hraw⟩
  · obtain ⟨e, herror, he⟩ := exists_error_of_not_gives hnone
    exact ⟨e, herror, List.mem_map_of_mem he⟩
  · exact fun config key => OptionTable.get?_insertAll config.options pairs key
  · rintro action arguments given hspells horder hrequired rfl
    refine Arguments.exists_request_of_inOrder hspells horder hrequired ?_
    rw [Arguments.flags_text, Arguments.flagsFrom_of_spells hspells]
    have hread := mapM_eq_ok.mp (mapM_parse_eq_ok.mpr h)
    exact mapM_eq_ok.mpr (hread.imp fun _ _ hparse => mapError_eq_ok.mpr hparse)

/-- Two flags for one option. There are blanks around the first key, and a sign of equality in its
value. -/
theorem flags_give_options_twice :
    ∃ request inputs, Arguments.parse ["describe", "--manifest", "list", "-A",
        "\u2003team\t=a=b", "-A=team=c "] = .ok request ∧ request.inputs? = some inputs ∧
      inputs.options = [("team", "a=b"), ("team", "c ")] ∧
      ∀ config : Config, (config.withOptions inputs.options).options.get? "team" = some "c " := by
  have hfirst : Gives "\u2003team\t=a=b" "team" "a=b" := parse_eq_ok.mp (by rfl)
  have hsecond : Gives "team=c " "team" "c " := parse_eq_ok.mp (by rfl)
  have hspells : Arguments.Spells .describe
      ["--manifest", "list", "-A", "\u2003team\t=a=b", "-A=team=c "]
      [(.manifest, "list"), (.define, "\u2003team\t=a=b"), (.define, "team=c ")] :=
    .apart (.long none rfl) rfl <| .apart (.short []) rfl <| .attached (.short _) .nil
  obtain ⟨-, hoptions, hrequest⟩ := flags_give_options.2 ["\u2003team\t=a=b", "team=c "]
    [("team", "a=b"), ("team", "c ")] (.cons hfirst (.cons hsecond .nil))
  obtain ⟨request, inputs, hparse, hinputs, hpairs⟩ :=
    hrequest .describe _ _ hspells ⟨by decide, by decide⟩ (by decide) rfl
  refine ⟨request, inputs, hparse, hinputs, hpairs, fun config => ?_⟩
  rw [hpairs, hoptions config "team"]
  rfl

end OptionFlag

end PluginWrapper
