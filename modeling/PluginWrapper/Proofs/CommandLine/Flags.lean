import PluginWrapper.CommandLine.Arguments
import PluginWrapper.Proofs.Except

/-! What a command line gives with `-A`. Each value is read where it stands, so the first that is
malformed is the one that is reported, and of a request that is granted none was. -/
namespace PluginWrapper

def Request.inputs? : Request → Option Inputs
  | .generate inputs _ => some inputs
  | .describe inputs => some inputs
  | _ => none

namespace Arguments

/-- The values of `-A` behind a command, up to where help is asked for or the options end. Where
nothing is attached to it, `-A` awaits its value. -/
def flagsFrom (awaited : Bool) : List String → List String
  | [] => []
  | argument :: rest =>
    match Argument.ofText argument with
    | .escape => []
    | .long name _ => if name = "help" then [] else flagsFrom false rest
    | .cluster c more =>
      if c = 'h' then []
      else if c = 'A' then
        match attached? more with
        | some value => value :: flagsFrom false rest
        | none => flagsFrom true rest
      else flagsFrom false rest
    | .plain text => if awaited then text :: flagsFrom false rest else flagsFrom false rest

def flags : List String → List String
  | [] => []
  | command :: rest => if (Action.ofText? command).isSome then flagsFrom false rest else []

def readFlag (raw : String) : Except UsageError (String × String) :=
  (OptionFlag.parse raw).mapError (.invalidOption raw)

/-- The outcome of a command line that goes on with these flags: of a request all of them are read,
behind the options before them, and an error about a flag is about the first that is malformed. -/
def Reads (action : Action) (flags : List String) (before : List (String × String)) :
    Except UsageError Request → Prop
  | .ok request => ∃ entries, flags.mapM readFlag = .ok entries ∧
    (∀ inputs, request.inputs? = some inputs → inputs.options = before ++ entries) ∧
    ∀ inputs out, request = .generate inputs out → action = .generate
  | .error e => ∀ raw cause, e = .invalidOption raw cause → flags.mapM readFlag = .error e

def flagsOf : Parameter → Option String → List String
  | .define, some value => [value]
  | _, _ => []

theorem flagsOf_none (p : Parameter) : flagsOf p none = [] := by
  cases p <;> rfl

theorem flagsOf_of_ne {p : Parameter} (h : p ≠ .define) (value : Option String) :
    flagsOf p value = [] := by
  cases p <;> first | rfl | exact absurd rfl h

namespace Draft

def flags (d : Draft) : List String :=
  (d.pending.map fun (p, value) => flagsOf p value).getD []

def awaits (d : Draft) : Bool :=
  d.pending = some (.define, none)

private theorem flags_eq {d : Draft} {last : Option (Parameter × Option String)}
    (h : d.pending = last) :
    d.flags = (last.map fun (p, value) => flagsOf p value).getD [] := by
  rw [flags, h]

private theorem awaits_eq {d : Draft} {last : Option (Parameter × Option String)}
    (h : d.pending = last) :
    d.awaits = decide (last = some (.define, none)) := by
  rw [awaits, h]

end Draft

variable {action : Action} {rest : List String} {before : List (String × String)}
  {r : Except UsageError Request} {k : Draft → Except UsageError Request} {d : Draft}

private theorem Reads.cons {raw : String} {entry : String × String}
    (hraw : OptionFlag.parse raw = .ok entry)
    (h : Reads action rest (before ++ [entry]) r) : Reads action (raw :: rest) before r := by
  have hread : readFlag raw = .ok entry := by rw [readFlag, hraw]; rfl
  cases r with
  | error e =>
    intro raw' cause he
    rw [List.mapM_cons, hread, h raw' cause he]
    rfl
  | ok request =>
    obtain ⟨entries, hentries, hinputs, haction⟩ := h
    refine ⟨entry :: entries, ?_, fun inputs hrequest => ?_, haction⟩
    · rw [List.mapM_cons, hread, hentries]
      rfl
    · rw [hinputs inputs hrequest, List.append_assoc, List.singleton_append]

/-- What is given to a parameter counts as a flag where the parameter is `-A`. -/
private theorem Reads.give {p : Parameter} {value : String} (hpending : d.pending = none)
    (h : ∀ d', d'.pending = none → Reads action rest d'.options (k d')) :
    Reads action (flagsOf p (some value) ++ rest) d.options (d.give p value >>= k) := by
  by_cases hp : p = .define
  · subst hp
    have hflags : flagsOf .define (some value) = [value] := rfl
    rw [hflags, List.singleton_append, Draft.give]
    cases hvalue : OptionFlag.parse value with
    | error cause =>
      have hread : readFlag value = .error (.invalidOption value cause) := by
        rw [readFlag, hvalue]
        rfl
      intro _ _ _
      rw [List.mapM_cons, hread]
      rfl
    | ok entry => exact .cons hvalue (h { d with options := d.options ++ [entry] } hpending)
  · rw [flagsOf_of_ne hp, List.nil_append, Draft.give]
    · split
      · nofun
      · split
        · nofun
        · exact h { d with values := d.values ++ [(p, value)] } hpending
    · exact hp

private theorem Reads.settle (h : ∀ d', d'.pending = none → Reads action rest d'.options (k d')) :
    Reads action (d.flags ++ rest) d.options (d.settle >>= k) := by
  rw [Draft.settle, Draft.flags]
  cases hpending : d.pending with
  | none => exact h d hpending
  | some last =>
    obtain ⟨p, _ | value⟩ := last
    · nofun
    · exact Reads.give (d := { d with pending := none }) rfl h

/-- The option that begins is settled later, unless its value is attached to it. -/
private theorem Reads.begin {arguments : List String} (p : Parameter) (attached : Option String)
    (h : ∀ d', Reads action (d'.flags ++ flagsFrom d'.awaits arguments) d'.options (k d')) :
    Reads action (d.flags ++ (flagsOf p attached ++
      flagsFrom (decide (p = .define ∧ attached = none)) arguments)) d.options
      (d.begin p attached >>= k) := by
  have hbegin : (d.begin p attached >>= k) = d.settle >>= fun d =>
      match attached with
      | some value => d.give p value >>= k
      | none => k { d with pending := some (p, none) } := by
    rw [Draft.begin]
    cases d.settle <;> cases attached <;> rfl
  rw [hbegin]
  refine .settle fun d' hd' => ?_
  cases attached with
  | some value =>
    refine .give hd' fun d'' hd'' => ?_
    have hrest := h d''
    rw [Draft.flags_eq hd'', Draft.awaits_eq hd''] at hrest
    simpa using hrest
  | none =>
    have hrest := h { d' with pending := some (p, none) }
    rw [Draft.flags_eq rfl, Draft.awaits_eq rfl] at hrest
    simpa [flagsOf_none] using hrest

private theorem Reads.finish (action : Action) (d : Draft) :
    Reads action d.flags d.options (d.finish action) := by
  rw [← List.append_nil d.flags, Draft.finish]
  refine .settle fun d' _ => ?_
  dsimp only
  split
  · refine ⟨[], rfl, fun inputs h => ?_, fun _ _ _ => rfl⟩
    cases h
    exact (List.append_nil _).symm
  · refine ⟨[], rfl, fun inputs h => ?_, nofun⟩
    cases h
    exact (List.append_nil _).symm
  · nofun

private theorem Reads.help (action : Action) (d : Draft) (topic : HelpTopic) :
    Reads action d.flags d.options (d.settle.map fun _ => .help topic) := by
  have hmap : (d.settle.map fun _ => Request.help topic) =
      d.settle >>= fun _ => .ok (.help topic) := by
    cases d.settle <;> rfl
  rw [← List.append_nil d.flags, hmap]
  exact .settle fun d' _ => ⟨[], rfl, nofun, nofun⟩

theorem ne_of_longParameter {name : String} {p : Parameter}
    (h : longParameter? action name = some p) : p ≠ .define ∧ name ≠ "help" := by
  have hname := List.find?_some h
  simp only [beq_iff_eq] at hname
  cases p <;> cases hname <;> decide

private theorem define_of_shortParameter {c : Char} {p : Parameter}
    (h : shortParameter? action c = some p) : p = .define ∧ c = 'A' := by
  have hname := List.find?_some h
  simp only [beq_iff_eq] at hname
  cases p with
  | define => exact ⟨rfl, (Option.some.inj hname).symm⟩
  | manifest | config | out => cases hname

/-- The argument begins an option that sets a parameter, with its value if that is attached. -/
inductive Begins (action : Action) : Argument → Parameter → Option String → Prop where
  | long {name : String} {p : Parameter} (value : Option String) :
    longParameter? action name = some p → Begins action (.long name value) p value
  | short (more : List Char) : Begins action (.cluster 'A' more) .define (attached? more)

theorem flagsFrom_of_begins {argument : String} {p : Parameter} {value : Option String}
    (h : Begins action (Argument.ofText argument) p value) (awaited : Bool) (rest : List String) :
    flagsFrom awaited (argument :: rest) =
      flagsOf p value ++ flagsFrom (decide (p = .define ∧ value = none)) rest := by
  rw [flagsFrom]
  revert h
  generalize Argument.ofText argument = shape
  rintro (⟨_, hp⟩ | more)
  · obtain ⟨hne, hhelp⟩ := ne_of_longParameter hp
    rw [flagsOf_of_ne hne]
    simp [hhelp, hne]
  · cases hmore : attached? more <;> simp [hmore, flagsOf]

/-- Whatever the command line, the flags on it are read in their order. -/
theorem reads_parseAction (action : Action) (d : Draft) (arguments : List String) :
    Reads action (d.flags ++ flagsFrom d.awaits arguments) d.options
      (parseAction action d arguments) := by
  fun_induction parseAction action d arguments with
  | case1 d =>
    rw [flagsFrom, List.append_nil]
    exact .finish action d
  | case2 d argument h =>
    rw [flagsFrom, h, List.append_nil]
    exact .finish action d
  | case3 => nofun
  | case4 d argument rest h =>
    have hflags : flagsFrom d.awaits (argument :: rest) = [] := by
      rw [flagsFrom, h]
      rfl
    rw [hflags, List.append_nil]
    exact .help action d _
  | case5 => nofun
  | case6 d argument rest name value hname hvalue h p hp ih =>
    have hbegins : Begins action (Argument.ofText argument) p value := h ▸ .long value hp
    rw [flagsFrom_of_begins hbegins]
    exact .begin p value ih
  | case7 => nofun
  | case8 d argument rest more h =>
    have hflags : flagsFrom d.awaits (argument :: rest) = [] := by
      rw [flagsFrom, h]
      rfl
    rw [hflags, List.append_nil]
    exact .help action d _
  | case9 d argument rest c more hc h p hp ih =>
    obtain ⟨rfl, rfl⟩ := define_of_shortParameter hp
    have hbegins : Begins action (Argument.ofText argument) .define (attached? more) :=
      h ▸ .short more
    rw [flagsFrom_of_begins hbegins]
    exact .begin .define (attached? more) ih
  | case10 => nofun
  | case11 d argument rest text h p hp ih =>
    rw [Draft.flags_eq rfl, Draft.awaits_eq rfl] at ih
    rw [Draft.flags_eq hp, Draft.awaits_eq hp, flagsFrom, h]
    cases p <;> simpa [flagsOf] using ih
  | case12 => nofun

private theorem eq_text_of_ofText {command : String} (h : Action.ofText? command = some action) :
    command = action.text := by
  have hname := List.find?_some h
  simp only [beq_iff_eq] at hname
  exact hname.symm

theorem parse_text (action : Action) (rest : List String) :
    parse (action.text :: rest) = parseAction action .blank rest := by
  cases action <;> rfl

theorem flags_text (action : Action) (rest : List String) :
    flags (action.text :: rest) = flagsFrom false rest := by
  cases action <;> rfl

private theorem eq_of_ofText_plain {argument text : String}
    (h : Argument.ofText argument = .plain text) :
    text = argument := by
  unfold Argument.ofText at h
  split at h
  · cases h
  · split at h <;> cases h
  · cases h
  · exact (Argument.plain.inj h).symm

private theorem inputs?_of_parseHelp {names : List String} {request : Request}
    (h : parseHelp names = .ok request) : request.inputs? = none := by
  revert h
  fun_cases parseHelp names with
  | case1 | case3 =>
    intro h
    cases h
    rfl
  | _ => nofun

/-- Only a command makes a command line do more than to give help. -/
private theorem exists_action_of_inputs {arguments : List String} {request : Request}
    {inputs : Inputs}
    (h : parse arguments = .ok request) (hinputs : request.inputs? = some inputs) :
    ∃ action rest, arguments = action.text :: rest ∧
      parseAction action .blank rest = .ok request := by
  revert h
  fun_cases parse arguments with
  | case4 | case5 | case9 | case10 =>
    intro h
    cases h
    cases hinputs
  | case12 =>
    intro h
    cases hinputs.symm.trans (inputs?_of_parseHelp h)
  | case13 argument rest name hname hhelp action haction =>
    intro h
    obtain rfl := eq_of_ofText_plain hname
    exact ⟨action, rest, by rw [eq_text_of_ofText haction], h⟩
  | _ => nofun

/-- The options of a request are the flags, read one by one, and what begins the command line is the
command that the request is about. -/
theorem mapM_flags_of_parse {arguments : List String} {request : Request} {inputs : Inputs}
    (h : parse arguments = .ok request) (hinputs : request.inputs? = some inputs) :
    (flags arguments).mapM readFlag = .ok inputs.options ∧
      ∀ out, request = .generate inputs out → arguments.head? = some "generate" := by
  obtain ⟨action, rest, rfl, hparse⟩ := exists_action_of_inputs h hinputs
  have hreads := reads_parseAction action .blank rest
  rw [hparse] at hreads
  obtain ⟨entries, hentries, hoptions, haction⟩ := hreads
  have hblank : Draft.blank.flags ++ flagsFrom Draft.blank.awaits rest = flagsFrom false rest := rfl
  rw [hblank] at hentries
  rw [flags_text, hoptions inputs hinputs]
  refine ⟨hentries, fun out hgenerate => ?_⟩
  rw [haction inputs out hgenerate]
  rfl

private theorem exists_action_of_flags {arguments : List String} (h : flags arguments ≠ []) :
    ∃ action rest, arguments = Action.text action :: rest := by
  cases arguments with
  | nil => exact absurd rfl h
  | cons command rest =>
    rw [flags] at h
    split at h
    · rename_i haction
      obtain ⟨action, haction⟩ := Option.isSome_iff_exists.mp haction
      exact ⟨action, rest, by rw [eq_text_of_ofText haction]⟩
    · exact absurd rfl h

/-- A malformed flag makes the command line one that is not understood. If the fault is a flag, it
is the first that is malformed. -/
theorem parse_of_malformed {arguments : List String} {e : UsageError}
    (h : (flags arguments).mapM readFlag = .error e) :
    ∃ e', parse arguments = .error e' ∧ ∀ raw cause, e' = .invalidOption raw cause → e' = e := by
  have hflags : flags arguments ≠ [] := by
    intro hnil
    rw [hnil] at h
    cases h
  obtain ⟨action, rest, rfl⟩ := exists_action_of_flags hflags
  have hreads := reads_parseAction action .blank rest
  have hblank : Draft.blank.flags ++ flagsFrom Draft.blank.awaits rest = flagsFrom false rest := rfl
  rw [hblank, ← flags_text action] at hreads
  rw [parse_text]
  cases hparse : parseAction action .blank rest with
  | ok request =>
    rw [hparse] at hreads
    obtain ⟨entries, hentries, -⟩ := hreads
    cases h.symm.trans hentries
  | error e' =>
    rw [hparse] at hreads
    exact ⟨e', rfl, fun raw cause he =>
      Except.error.inj ((hreads raw cause he).symm.trans h)⟩

end Arguments

end PluginWrapper
