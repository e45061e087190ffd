import PluginWrapper.Proofs.Association
import PluginWrapper.Proofs.CommandLine.Flags

/-! Command lines on which every option has its value. Where nothing else is wrong with the options,
the first malformed flag is the fault that is reported. -/
namespace PluginWrapper.Arguments

/-- The arguments give these parameters these values, each value attached to its option or in the
argument behind it. -/
inductive Spells (action : Action) : List String → List (Parameter × String) → Prop where
  | nil : Spells action [] []
  | apart {argument value : String} {p : Parameter} {rest : List String}
    {given : List (Parameter × String)} :
    Begins action (Argument.ofText argument) p none → Argument.ofText value = .plain value →
    Spells action rest given → Spells action (argument :: value :: rest) ((p, value) :: given)
  | attached {argument value : String} {p : Parameter} {rest : List String}
    {given : List (Parameter × String)} :
    Begins action (Argument.ofText argument) p (some value) →
    Spells action rest given → Spells action (argument :: rest) ((p, value) :: given)

def single (given : List (Parameter × String)) : List (Parameter × String) :=
  given.filter (·.1 ≠ .define)

/-- Such a parameter is given once at most, and has a value. -/
structure InOrder (given : List (Parameter × String)) : Prop where
  distinct : ((single given).map Prod.fst).Nodup
  nonempty : ∀ g ∈ single given, g.2 ≠ ""

def givenFlags (given : List (Parameter × String)) : List String :=
  given.flatMap fun g => flagsOf g.1 (some g.2)

def Draft.giveAll (d : Draft) (given : List (Parameter × String)) : Except UsageError Draft :=
  given.foldlM (fun d g => d.give g.1 g.2) d

variable {action : Action} {arguments : List String} {given : List (Parameter × String)}

theorem flagsFrom_of_spells (h : Spells action arguments given) :
    flagsFrom false arguments = givenFlags given := by
  induction h with
  | nil => rfl
  | @apart argument value p rest given hbegins hplain _ ih =>
    rw [flagsFrom_of_begins hbegins, flagsOf_none, List.nil_append, flagsFrom, hplain, ih]
    cases p <;> rfl
  | @attached argument value p rest given hbegins _ ih =>
    rw [flagsFrom_of_begins hbegins, givenFlags, List.flatMap_cons, ← givenFlags, ← ih]
    simp

private theorem parseAction_of_begins {argument : String} {p : Parameter} {value : Option String}
    (h : Begins action (Argument.ofText argument) p value) (d : Draft) (rest : List String) :
    parseAction action d (argument :: rest) =
      d.begin p value >>= fun d => parseAction action d rest := by
  rw [parseAction.eq_def]
  dsimp only
  revert h
  generalize Argument.ofText argument = shape
  rintro (⟨_, hp⟩ | more)
  · obtain ⟨-, hhelp⟩ := ne_of_longParameter hp
    cases value <;> simp [hhelp, hp]
  · have hp : shortParameter? action 'A' = some .define := by cases action <;> rfl
    simp [hp]

namespace Draft
variable {d d' : Draft}

private theorem giveAll_cons (d : Draft) (p : Parameter) (value : String)
    (given : List (Parameter × String)) :
    d.giveAll ((p, value) :: given) = d.give p value >>= fun d => d.giveAll given :=
  List.foldlM_cons

private theorem settle_of_pending (h : d.pending = none) : d.settle = .ok d := by
  rw [settle, h]

private theorem pending_of_give {p : Parameter} {value : String} (h : d.give p value = .ok d') :
    d'.pending = d.pending := by
  revert h
  fun_cases Draft.give d p value with
  | case1 | case5 =>
    intro h
    cases h
    rfl
  | _ => nofun

private theorem pending_of_settle (h : d.settle = .ok d') : d'.pending = none := by
  rw [settle] at h
  split at h
  · rename_i hpending
    cases h
    exact hpending
  · cases h
  · exact pending_of_give h

private theorem settle_bind_finish (action : Action) (d : Draft) :
    d.settle >>= (·.finish action) = d.finish action := by
  cases hsettle : d.settle with
  | error e => rw [finish, hsettle]; rfl
  | ok d' =>
    have hsettled := settle_of_pending (pending_of_settle hsettle)
    rw [finish, hsettle]
    change d'.finish action = _
    rw [finish, hsettled]

end Draft

/-- Such arguments are read by giving each parameter its value, in turn. -/
private theorem parseAction_of_spells (h : Spells action arguments given) (d : Draft) :
    parseAction action d arguments =
      d.settle >>= fun d => d.giveAll given >>= (·.finish action) := by
  induction h generalizing d with
  | nil => exact (d.settle_bind_finish action).symm
  | @apart argument value p rest given hbegins hplain _ ih =>
    rw [parseAction_of_begins hbegins, Draft.begin]
    cases hsettle : d.settle with
    | error e => rfl
    | ok d' =>
      -- The value comes while its option is pending, and is given when that is settled.
      have hpending : { d' with pending := none } = d' := by
        rw [← Draft.pending_of_settle hsettle]
      change parseAction action { d' with pending := some (p, none) } (value :: rest) =
        d'.giveAll ((p, value) :: given) >>= (·.finish action)
      rw [parseAction.eq_def]
      simp only [hplain]
      rw [ih, Draft.settle, hpending, Draft.giveAll_cons, bind_assoc]
  | @attached argument value p rest given hbegins _ ih =>
    rw [parseAction_of_begins hbegins, Draft.begin]
    cases hsettle : d.settle with
    | error e => rfl
    | ok d' =>
      change (d'.give p value >>= fun d => parseAction action d rest) =
        d'.giveAll ((p, value) :: given) >>= (·.finish action)
      rw [Draft.giveAll_cons]
      cases hgive : d'.give p value with
      | error e => rfl
      | ok d'' =>
        have hpending : d''.pending = none :=
          (Draft.pending_of_give hgive).trans (Draft.pending_of_settle hsettle)
        change parseAction action d'' rest = d''.giveAll given >>= (·.finish action)
        rw [ih, Draft.settle_of_pending hpending]
        rfl

private theorem give_of_ne {d : Draft} {p : Parameter} {value : String} (hp : p ≠ .define)
    (hnew : p ∉ d.values.map Prod.fst) (hvalue : value ≠ "") :
    d.give p value = .ok { d with values := d.values ++ [(p, value)] } := by
  have hlookup : d.values.lookup p = none := lookup_eq_none_iff_keys.mpr hnew
  cases p <;> simp_all [Draft.give]

private theorem give_define (d : Draft) (value : String) : d.give .define value =
    readFlag value >>= fun entry => .ok { d with options := d.options ++ [entry] } := by
  rw [Draft.give, readFlag]
  cases OptionFlag.parse value <;> rfl

/-- In order, nothing but a malformed flag stops the reading of what is given. -/
private theorem giveAll_of_distinct {d : Draft}
    (hdistinct : ((d.values ++ single given).map Prod.fst).Nodup)
    (hnonempty : ∀ g ∈ single given, g.2 ≠ "") :
    d.giveAll given = (givenFlags given).mapM readFlag >>= fun entries =>
        .ok { d with values := d.values ++ single given, options := d.options ++ entries } := by
  induction given generalizing d with
  | nil =>
    rw [single, List.filter_nil, List.append_nil]
    change Except.ok d = Except.ok { d with options := d.options ++ [] }
    rw [List.append_nil]
  | cons g given ih =>
    obtain ⟨p, value⟩ := g
    rw [Draft.giveAll_cons]
    by_cases hp : p = .define
    · subst hp
      have hflags : givenFlags ((Parameter.define, value) :: given) =
          value :: givenFlags given := rfl
      have hsingle : single ((Parameter.define, value) :: given) = single given := rfl
      rw [hsingle] at hdistinct hnonempty
      rw [hflags, hsingle, List.mapM_cons, give_define, bind_assoc, bind_assoc]
      refine congrArg (readFlag value >>= ·) (funext fun entry => ?_)
      rw [ok_bind, ih (d := { d with options := d.options ++ [entry] }) hdistinct hnonempty,
        bind_assoc]
      refine congrArg ((givenFlags given).mapM readFlag >>= ·) (funext fun entries => ?_)
      rw [pure_bind, List.append_assoc, List.singleton_append]
    · have hsingle : single ((p, value) :: given) = (p, value) :: single given := by
        rw [single, List.filter_cons_of_pos (by simpa using hp), ← single]
      have hflags : givenFlags ((p, value) :: given) = givenFlags given := by
        rw [givenFlags, List.flatMap_cons, flagsOf_of_ne hp, List.nil_append, ← givenFlags]
      rw [hsingle] at hdistinct hnonempty
      have hnew : p ∉ d.values.map Prod.fst := by
        rw [List.map_append, List.nodup_append] at hdistinct
        exact fun hmem => hdistinct.2.2 p hmem p (by simp) rfl
      have happend : d.values ++ (p, value) :: single given =
          d.values ++ [(p, value)] ++ single given := by
        rw [List.append_assoc, List.singleton_append]
      rw [happend] at hdistinct
      rw [give_of_ne hp hnew (hnonempty _ List.mem_cons_self), ok_bind,
        ih hdistinct fun g hg => hnonempty g (List.mem_cons_of_mem _ hg), hflags, hsingle, happend]

/-- Where each option has its value and none but `-A` is given twice, nothing can go wrong but that
a flag is malformed or that a parameter is missing. -/
theorem parse_eq_of_inOrder (hspells : Spells action arguments given) (horder : InOrder given) :
    parse (action.text :: arguments) =
      (flags (action.text :: arguments)).mapM readFlag >>= fun entries =>
        Draft.finish ⟨single given, entries, none⟩ action := by
  rw [flags_text, flagsFrom_of_spells hspells, parse_text, parseAction_of_spells hspells,
    Draft.settle_of_pending rfl, ok_bind,
    giveAll_of_distinct (d := .blank) horder.distinct horder.nonempty, bind_assoc]
  rfl

/-- A malformed flag is then what is reported, and the first one if there are several. -/
theorem parse_of_inOrder {e : UsageError} (hspells : Spells action arguments given)
    (horder : InOrder given)
    (h : (flags (action.text :: arguments)).mapM readFlag = .error e) :
    parse (action.text :: arguments) = .error e := by
  rw [parse_eq_of_inOrder hspells horder, h]
  rfl

/-- With all that is required, a draft makes a request, and the options are as they were read. -/
private theorem finish_of_required {d : Draft} (hpending : d.pending = none)
    (hrequired : ∀ p ∈ action.required, p ∈ d.values.map Prod.fst) :
    ∃ request inputs, d.finish action = .ok request ∧ request.inputs? = some inputs ∧
      inputs.options = d.options := by
  have hgiven (p : Parameter) (hp : p ∈ action.required) :
      ∃ value, d.values.lookup p = some value :=
    Option.ne_none_iff_exists'.mp fun hnone => lookup_eq_none_iff_keys.mp hnone (hrequired p hp)
  obtain ⟨manifest, hmanifest⟩ := hgiven .manifest (by cases action <;> decide)
  rw [Draft.finish, Draft.settle_of_pending hpending, ok_bind]
  cases action with
  | generate =>
    obtain ⟨out, hout⟩ := hgiven .out (by decide)
    simp only [hmanifest, hout]
    exact ⟨_, _, rfl, rfl, rfl⟩
  | describe =>
    simp only [hmanifest]
    exact ⟨_, _, rfl, rfl, rfl⟩

/-- Well-formed flags then become the options of the request, in their order. -/
theorem exists_request_of_inOrder {entries : List (String × String)}
    (hspells : Spells action arguments given) (horder : InOrder given)
    (hrequired : ∀ p ∈ action.required, p ∈ given.map Prod.fst)
    (h : (flags (action.text :: arguments)).mapM readFlag = .ok entries) :
    ∃ request inputs, parse (action.text :: arguments) = .ok request ∧
      request.inputs? = some inputs ∧ inputs.options = entries := by
  rw [parse_eq_of_inOrder hspells horder, h, ok_bind]
  refine finish_of_required rfl fun p hp => ?_
  obtain ⟨g, hg, rfl⟩ := List.mem_map.mp (hrequired p hp)
  have hne : g.1 ≠ .define := by
    intro hdefine
    rw [hdefine] at hp
    cases action <;> exact absurd hp (by decide)
  exact List.mem_map_of_mem (List.mem_filter.mpr ⟨hg, by simpa using hne⟩)

end PluginWrapper.Arguments
