import PluginWrapper.Proofs.CommandLine.Report
import PluginWrapper.Proofs.CommandLine.Spelling
import PluginWrapper.Proofs.Round.Trace

/-! What a run does, and in which order. The flags are read first, then the configuration, then the
manifest, and the first of these that fails ends the run before it has touched a file. -/
namespace PluginWrapper.CommandLine
open Arguments (flags readFlag Spells InOrder)
open Round (reported)

variable {arguments : List String} {env : Environment} {tree : FileTree} {inputs : Inputs}
  {request : Request} {loaded : Config} {m : Manifest}

theorem withInputs_of_config {e : Config.Error}
    (h : Config.load tree env inputs.config = .error e) (work : Work) :
    withInputs env tree inputs work = failed (.configuration e) [] tree := by
  rw [withInputs, h]

theorem withInputs_of_manifest {e : Manifest.LoadError}
    (hconfig : Config.load tree env inputs.config = .ok loaded)
    (h : Manifest.load tree inputs.manifest = .error e) (work : Work) :
    ∃ log, withInputs env tree inputs work = failed (.manifest e) log tree := by
  rw [withInputs, hconfig, h]
  exact ⟨_, rfl⟩

/-- Once everything has loaded, the work decides about the rest. -/
theorem withInputs_of_loaded (hconfig : Config.load tree env inputs.config = .ok loaded)
    (hmanifest : Manifest.load tree inputs.manifest = .ok m) (work : Work) :
    ∃ log, withInputs env tree inputs work =
      match work (loaded.withOptions inputs.options) m with
      | (.error f, _, after) => failed f log after
      | (.ok text, _, after) => ⟨0, text, "", log, after⟩ := by
  rw [withInputs, hconfig, hmanifest]
  dsimp only
  generalize work _ m = done
  obtain ⟨printed, events, after⟩ := done
  cases printed <;> exact ⟨_, rfl⟩

def workOf (env : Environment) (tree : FileTree) : Request → Work
  | .generate _ out => generate env tree out
  | _ => describe tree

theorem run_of_inputs (h : Arguments.parse arguments = .ok request)
    (hinputs : request.inputs? = some inputs) :
    run arguments env tree = withInputs env tree inputs (workOf env tree request) := by
  rw [run, h]
  cases request <;> cases hinputs <;> rfl

/-- The flags were read, and the configuration and the manifest loaded. -/
structure Loads (arguments : List String) (env : Environment) (tree : FileTree) (inputs : Inputs)
    (loaded : Config) (m : Manifest) : Prop where
  flags : (flags arguments).mapM readFlag = .ok inputs.options
  config : Config.load tree env inputs.config = .ok loaded
  manifest : Manifest.load tree inputs.manifest = .ok m

private theorem run_of_malformed {e : UsageError} (h : (flags arguments).mapM readFlag = .error e)
    (env : Environment) (tree : FileTree) :
    ∃ e', Arguments.parse arguments = .error e' ∧
      run arguments env tree = ⟨2, "", written env e'.text, [], tree⟩ ∧
      (∀ raw cause, e' = .invalidOption raw cause → e' = e) ∧
      ∀ action rest given, arguments = Action.text action :: rest → Spells action rest given →
        InOrder given → e' = e := by
  obtain ⟨e', hparse, hfirst⟩ := Arguments.parse_of_malformed h
  refine ⟨e', hparse, by rw [run, hparse], hfirst, ?_⟩
  rintro action rest given rfl hspells horder
  exact Except.error.inj (hparse.symm.trans (Arguments.parse_of_inOrder hspells horder h))

/-- Files are touched by the round of `generate` alone, and nothing comes after it. -/
theorem run_of_generate {out : String}
    (hparse : Arguments.parse arguments = .ok (.generate inputs out))
    (hconfig : Config.load tree env inputs.config = .ok loaded)
    (hmanifest : Manifest.load tree inputs.manifest = .ok m) :
    let round := Round.process (Directory.sink out.toList)
      (loaded.withOptions inputs.options).options m.discovery tree
    let done := run arguments env tree
    done.tree = round.state ∧
      match round.result with
      | .error e =>
        done.exit = 1 ∧ done.stdout = "" ∧ done.stderr = (Failure.generation out e).text ++ "\n"
      | .ok report => done.exit = 0 ∧ done.stderr = "" ∧
        report.artifacts =
          m.declarations.map (reported (loaded.withOptions inputs.options).options) ∧
        Printed (usesColours env) out report.artifacts m.declarations.length done.stdout := by
  intro round done
  obtain ⟨log, hrun⟩ := withInputs_of_loaded hconfig hmanifest (generate env tree out)
  have hdone : done = _ := (run_of_inputs hparse rfl).trans hrun
  simp only [generate] at hdone
  cases hresult : round.result with
  | error e =>
    rw [hresult] at hdone
    rw [hdone]
    exact ⟨rfl, rfl, rfl, rfl⟩
  | ok report =>
    rw [hresult] at hdone
    have hround : round = Round.run (Directory.sink out.toList) _ m.declarations tree :=
      Round.process_discovery ..
    have hartifacts := Round.artifacts_of_run_ok (hround ▸ hresult)
    rw [Round.generationOrder_declarations] at hartifacts
    rw [hdone]
    refine ⟨rfl, rfl, rfl, hartifacts, ?_⟩
    have hlength : report.artifacts.length = m.declarations.length := by
      rw [hartifacts, List.length_map]
    exact hlength ▸ printed_reportText (usesColours env) out report.artifacts

/-- A run that is not one of `generate` with everything loaded leaves the files alone, and prints
nothing if it fails. -/
theorem idle_or_loads (arguments : List String) (env : Environment) (tree : FileTree) :
    let done := run arguments env tree
    done.tree = tree ∧ (done.exit ≠ 0 → done.stdout = "") ∨
      ∃ inputs out loaded m, Arguments.parse arguments = .ok (.generate inputs out) ∧
        Loads arguments env tree inputs loaded m := by
  intro done
  cases hparse : Arguments.parse arguments with
  | error e =>
    have hdone : done = ⟨2, "", written env e.text, [], tree⟩ := by
      simp only [done, run, hparse]
    exact .inl (hdone ▸ ⟨rfl, fun _ => rfl⟩)
  | ok request =>
    cases hinputs : request.inputs? with
    | none =>
      have hdone : ∃ text, done = ⟨0, text, "", [], tree⟩ := by
        simp only [done, run, hparse]
        cases request with
        | help | version => exact ⟨_, rfl⟩
        | generate | describe => cases hinputs
      obtain ⟨text, hdone⟩ := hdone
      exact .inl (hdone ▸ ⟨rfl, fun hexit => absurd rfl hexit⟩)
    | some inputs =>
      have hdone : done = _ := run_of_inputs hparse hinputs
      cases hconfig : Config.load tree env inputs.config with
      | error e =>
        rw [withInputs_of_config hconfig] at hdone
        exact .inl (hdone ▸ ⟨rfl, fun _ => rfl⟩)
      | ok loaded =>
        cases hmanifest : Manifest.load tree inputs.manifest with
        | error e =>
          obtain ⟨log, hfailed⟩ :=
            withInputs_of_manifest hconfig hmanifest (workOf env tree request)
          rw [hfailed] at hdone
          exact .inl (hdone ▸ ⟨rfl, fun _ => rfl⟩)
        | ok m =>
          have hflags := (Arguments.mapM_flags_of_parse hparse hinputs).1
          cases request with
          | help | version => cases hinputs
          | generate inputs' out =>
            cases hinputs
            exact .inr ⟨inputs, out, loaded, m, rfl, hflags, hconfig, hmanifest⟩
          | describe =>
            obtain ⟨log, hdescribed⟩ := withInputs_of_loaded hconfig hmanifest (describe tree)
            change done = withInputs env tree inputs (describe tree) at hdone
            rw [hdescribed] at hdone
            exact .inl (hdone ▸ ⟨rfl, fun hexit => absurd rfl hexit⟩)

/-- Files are touched only after the flags, the configuration and the manifest have been read, and
only by `generate`. The first of the three that fails is what is reported, and no run that fails
prints anything to standard output. A round that succeeds is printed artifact by artifact, in the
order of its report, with the number of all declarations. -/
theorem run_in_order (arguments : List String) (env : Environment) (tree : FileTree) :
    let done := run arguments env tree
    (arguments.head? = some "describe" → done.tree = tree) ∧
    (done.tree ≠ tree → arguments.head? = some "generate" ∧ ∃ inputs out loaded m,
      Arguments.parse arguments = .ok (.generate inputs out) ∧
      Loads arguments env tree inputs loaded m) ∧
    (∀ e, (flags arguments).mapM readFlag = .error e → ∃ e',
      Arguments.parse arguments = .error e' ∧ done = ⟨2, "", written env e'.text, [], tree⟩ ∧
      (∀ raw cause, e' = .invalidOption raw cause → e' = e) ∧
      ∀ action rest given, arguments = Action.text action :: rest → Spells action rest given →
        InOrder given → e' = e) ∧
    (∀ request inputs, Arguments.parse arguments = .ok request → request.inputs? = some inputs →
      (∀ e, Config.load tree env inputs.config = .error e →
        done = ⟨1, "", (Failure.configuration e).text ++ "\n", [], tree⟩) ∧
      ∀ loaded e, Config.load tree env inputs.config = .ok loaded →
        Manifest.load tree inputs.manifest = .error e →
        done.exit = 1 ∧ done.stdout = "" ∧ done.stderr = (Failure.manifest e).text ++ "\n" ∧
          done.tree = tree) ∧
    (done.exit ≠ 0 → done.stdout = "") ∧
    ∀ inputs out loaded m, Arguments.parse arguments = .ok (.generate inputs out) →
      Config.load tree env inputs.config = .ok loaded →
      Manifest.load tree inputs.manifest = .ok m →
      let options := (loaded.withOptions inputs.options).options
      let round := Round.process (Directory.sink out.toList) options m.discovery tree
      done.tree = round.state ∧
        match round.result with
        | .error e =>
          done.exit = 1 ∧ done.stdout = "" ∧ done.stderr = (Failure.generation out e).text ++ "\n"
        | .ok report => done.exit = 0 ∧ done.stderr = "" ∧
          report.artifacts = m.declarations.map (reported options) ∧
          Printed (usesColours env) out report.artifacts m.declarations.length done.stdout := by
  intro done
  have htouched (h : done.tree ≠ tree) : arguments.head? = some "generate" ∧
      ∃ inputs out loaded m, Arguments.parse arguments = .ok (.generate inputs out) ∧
        Loads arguments env tree inputs loaded m := by
    rcases idle_or_loads arguments env tree with
      ⟨htree, -⟩ | ⟨inputs, out, loaded, m, hparse, hloads⟩
    · exact absurd htree h
    · exact ⟨(Arguments.mapM_flags_of_parse hparse rfl).2 out rfl, inputs, out, loaded, m, hparse,
        hloads⟩
  refine ⟨fun hhead => ?_, htouched, fun e h => run_of_malformed h env tree, ?_, ?_, ?_⟩
  · by_contra htree
    exact absurd (hhead.symm.trans (htouched htree).1) (by decide)
  · intro request inputs hparse hinputs
    have hdone : done = _ := run_of_inputs hparse hinputs
    refine ⟨fun e hconfig => hdone.trans (withInputs_of_config hconfig _), ?_⟩
    intro loaded e hconfig hmanifest
    obtain ⟨log, hfailed⟩ := withInputs_of_manifest hconfig hmanifest (workOf env tree request)
    rw [hdone, hfailed]
    exact ⟨rfl, rfl, rfl, rfl⟩
  · intro hexit
    rcases idle_or_loads arguments env tree with
      ⟨-, hidle⟩ | ⟨inputs, out, loaded, m, hparse, -, hconfig, hmanifest⟩
    · exact hidle hexit
    · obtain ⟨-, hround⟩ := run_of_generate hparse hconfig hmanifest
      split at hround
      · exact hround.2.1
      · exact absurd hround.1 hexit
  · intro inputs out loaded m hparse hconfig hmanifest
    exact run_of_generate hparse hconfig hmanifest

private def onlyList : FileTree := (FileTree.inside ["work"]).put ["work", "list"] (.file [])

/-- Arguments with two flags, of which one is malformed. Neither file that they name exists. -/
private def faulty : List String :=
  ["--manifest", "absent", "--config", "none", "-A", "team=red", "-Ateam", "--out=out"]

private theorem spells_faulty : Spells .generate faulty [(.manifest, "absent"), (.config, "none"),
    (.define, "team=red"), (.define, "team"), (.out, "out")] :=
  .apart (.long none rfl) rfl <| .apart (.long none rfl) rfl <| .apart (.short []) rfl <|
    .attached (.short _) <| .attached (.long _ rfl) .nil

/-- Three runs that fail, each at the first of its faults, and one that finds nothing to do. -/
theorem run_in_order_faults :
    run ("generate" :: faulty) [] onlyList = ⟨2, "",
      written [] (UsageError.invalidOption "team" (.noValue "team")).text, [], onlyList⟩ ∧
    run ["generate", "--manifest", "absent", "--config", "none", "--out", "out"] [] onlyList =
      ⟨1, "", (Failure.configuration (.fileNotFound "none")).text ++ "\n", [], onlyList⟩ ∧
    (run ["generate", "--manifest", "absent", "--out", "out"] [] onlyList).stderr =
      (Failure.manifest (.unreadable "absent" .noSuchFile)).text ++ "\n" ∧
    (run ["generate", "--manifest", "list", "--out", "out"] [] onlyList).stdout =
      "No module or core declarations found\n" := by
  have hdefaults : (Config.load onlyList [] none).toOption.isSome = true := by decide +kernel
  obtain ⟨loaded, hloaded⟩ := Option.isSome_iff_exists.mp hdefaults
  have hconfig : Config.load onlyList [] none = .ok loaded := toOption_eq_some.mp hloaded
  have hnone : Config.load onlyList [] (some "none") = .error (.fileNotFound "none") := rfl
  refine ⟨?_, ?_, ?_, ?_⟩
  · obtain ⟨e', -, hdone, -, hfirst⟩ :=
      (run_in_order ("generate" :: faulty) [] onlyList).2.2.1 _ rfl
    obtain rfl := hfirst .generate _ _ rfl spells_faulty ⟨by decide, by decide⟩
    exact hdone
  · exact ((run_in_order _ [] onlyList).2.2.2.1 _ _ rfl rfl).1 _ hnone
  · exact (((run_in_order _ [] onlyList).2.2.2.1 _ _ rfl rfl).2 loaded _ hconfig rfl).2.2.1
  · have hdone := run_in_order ["generate", "--manifest", "list", "--out", "out"] [] onlyList
    obtain ⟨-, -, -, -, hprinted⟩ := hdone.2.2.2.2.2 _ _ loaded ⟨[], []⟩ rfl hconfig rfl
    exact hprinted.nothing.mpr rfl

end PluginWrapper.CommandLine
