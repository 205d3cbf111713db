import Golden.Proofs.Cli.Grammar
import Golden.Proofs.Cli.Stages

/-!
# Less and more to see

A flag for less output or for more can be put in front of any arguments that have neither. It changes what
is shown of a run and nothing about it (`parse_switch`, `Reached.shown`): the exit code and standard error
stay as they are, a quiet invocation leaves out the reports on what passed and the summary, and a verbose
one adds a line in front and the differences (`verbosity_filters`).
-/

namespace Golden.Cli

variable {env : Environment} {args : List Bytes} {flags : Flags} {config : Config} {o : RunOptions}

/-! ## A switch in front -/

theorem isGiven_cons {names : List Bytes} {arg : Bytes} (hsep : arg ≠ separator) (harg : arg ∉ names) :
    isGiven names (arg :: args) = isGiven names args := by
  simp [isGiven, hsep, harg]

/-- A switch is no request. -/
theorem requests_switch {s : Switch} {arg : Bytes} (harg : arg ∈ s.spellings) (args : List Bytes) :
    wantsHelp (arg :: args) = wantsHelp args ∧ wantsVersion (arg :: args) = wantsVersion args := by
  have hother : ∀ arg ∈ s.spellings,
      arg ≠ separator ∧ arg ∉ ([utf8 "-h", utf8 "--help"] : List Bytes) ∧
        arg ∉ ([utf8 "--version"] : List Bytes) := by
    cases s <;> decide
  obtain ⟨hsep, hhelp, hversion⟩ := hother arg harg
  exact ⟨isGiven_cons hsep hhelp, isGiven_cons hsep hversion⟩

/-- A switch that is not about the mode is never taken back, so in front it adds itself to what the other
arguments ask for. -/
theorem parse_switch {s : Switch} {arg : Bytes} (harg : arg ∈ s.spellings)
    (hmode : (Item.switch s).mode? = none) (h : Flags.parse args = .ok flags)
    (hboth : ¬((flags.switch s).quiet = true ∧ (flags.switch s).verbose = true)) :
    Flags.parse (arg :: args) = .ok (flags.switch s) := by
  obtain ⟨hall, hcheck⟩ := parse_eq_ok_iff.mp h
  have hspells := spells_read args
  obtain ⟨hpasses, rfl⟩ := (hspells.addAll_eq_ok_iff {} flags).mp hall
  have hmeaning : (meaning {} (Item.read args)).switch s
      = meaning (Flags.switch {} s) (Item.read args) := by
    cases s <;> cases hmode <;> simp [meaning, Flags.switch]
  obtain ⟨-, hrunner, -⟩ := check_eq_ok_iff.mp hcheck
  refine parse_eq_ok_iff.mpr ⟨?_, check_eq_ok_iff.mpr ⟨hboth, ?_, rfl⟩⟩
  · rw [(Spells.switch harg hspells).read_eq]
    refine (hspells.addAll_eq_ok_iff (Flags.switch {} s) _).mpr ⟨?_, hmeaning⟩
    cases s <;> exact hpasses
  · cases s <;> exact hrunner

theorem run_switch {s : Switch} {arg : Bytes} (harg : arg ∈ s.spellings)
    (hmode : (Item.switch s).mode? = none) (hhelp : wantsHelp args = false)
    (hversion : wantsVersion args = false) (h : Flags.parse args = .ok flags)
    (hboth : ¬((flags.switch s).quiet = true ∧ (flags.switch s).verbose = true)) (env : Environment) :
    run env (arg :: args) = runFlags env (consoleOf env (flags.switch s)) (flags.switch s) := by
  obtain ⟨hhelp', hversion'⟩ := requests_switch harg args
  exact run_of_parse_ok (hhelp'.trans hhelp) (hversion'.trans hversion) env
    (parse_switch harg hmode h hboth)

/-! ## What is shown of a run -/

/-- The flags decide what is shown of a run. What is run, and how it ends, is up to the options. -/
theorem Reached.shown {suite : Suite} {set : FixtureSet} (h : Reached env flags config suite set)
    (ho : RunOptions.ofConfig config = .ok o) :
    let c := consoleOf env flags
    let r := runOf env o suite set
    let x := runFlags env c flags
    x.code = r.exitCode ∧ x.run = some r ∧
      x.output.err = (loadConfig env.tree c flags.configPath).output.err ∧
      x.output.out = (if flags.verbose && !flags.quiet then startNote config set ++ utf8 "\n" else [])
        ++ (r.output c flags.verbose).out
        ++ (if flags.quiet then [] else (r.summary.print c env.elapsed).out) := by
  intro c r x
  have hx : x = .after (loadConfig env.tree c flags.configPath).output
      (.after (if flags.verbose && !flags.quiet then .line (startNote config set) else {})
        { code := r.exitCode
          output := r.output c flags.verbose
            ++ (if flags.quiet then {} else r.summary.print c env.elapsed)
          run := some r }) := by
    rw [show x = _ from h.runFlags_eq ho, runSet_eq]
    rfl
  obtain ⟨hwarnings, -⟩ := loadConfig_output env.tree c flags.configPath
  have hreports := r.output_err c flags.verbose
  have hsummary := r.summary.print_err c env.elapsed
  rw [hx]
  simp only [Outcome.after_output, Outcome.after_code, Outcome.after_run, Output.append_def, hwarnings,
    hreports]
  refine ⟨trivial, trivial, ?_, ?_⟩
  · split_ifs <;> simp [Output.line, hsummary]
  · split_ifs <;> simp [Output.line]

/-! ## Less and more -/

/-- The outcomes show the same run, plainly, quietly and verbosely. In front of the summary, a plain output
is the reports on all results. A quiet one is the reports on those that did not pass, and nothing else. A
verbose one is a plain one with a line in front, and with the difference behind the report on each failed
result. -/
structure ShowTheRun (c : Console) (p : Plan) (elapsed elapsed' : Duration) (r : Run)
    (plain quiet verbose : Outcome) : Prop where
  run : plain.run = some r ∧ quiet.run = some r ∧ verbose.run = some r
  plain : plain.output.out = Run.reports c r.summary.results ++ (r.summary.print c elapsed).out
  quiet : quiet.output.out = Run.reports c (r.summary.results.filter (·.status ≠ .passed))
  verbose : verbose.output.out = "Running " ++ decimal p.set.size ++ " test cases from "
    ++ p.config.directory ++ " with " ++ Bytes.join " " p.config.runner ++ "\n"
    ++ r.summary.results.flatMap (fun x =>
      (x.report c false).out ++ if x.status = .failed then x.diffText else [])
    ++ (r.summary.print c elapsed').out

/-- Flags that lead to fixtures show the run of these, alone and with a switch about what is shown. -/
theorem Plans.showTheRun {p : Plan} (hp : Plans env args p) (hparse : Flags.parse args = .ok flags)
    (hquiet : flags.quiet = false) (hverbose : flags.verbose = false) (t₁ t₂ : Duration) :
    let plain := runFlags env (consoleOf env flags) flags
    let quiet := runFlags { env with elapsed := t₁ } (consoleOf env (flags.switch .quiet))
      (flags.switch .quiet)
    let verbose := runFlags { env with elapsed := t₂ } (consoleOf env (flags.switch .verbose))
      (flags.switch .verbose)
    (quiet.code = plain.code ∧ verbose.code = plain.code) ∧
    (quiet.output.err = plain.output.err ∧ verbose.output.err = plain.output.err) ∧
    ∃ r, ShowTheRun (consoleOf env flags) p env.elapsed t₂ r plain quiet verbose := by
  intro plain quiet verbose
  obtain ⟨-, -, hparse', hreached⟩ := plans_iff.mp hp
  obtain rfl : flags = p.flags := Except.ok.inj (hparse.symm.trans hparse')
  obtain ⟨o, ho⟩ := hp.valid.options
  have hreachedQuiet : Reached { env with elapsed := t₁ } (p.flags.switch .quiet)
    p.config p.suite p.set := hreached
  have hreachedVerbose : Reached { env with elapsed := t₂ } (p.flags.switch .verbose)
    p.config p.suite p.set := hreached
  obtain ⟨hcode, hrun, herr, hout⟩ := hreached.shown ho
  obtain ⟨hcode₁, hrun₁, herr₁, hout₁⟩ := hreachedQuiet.shown ho
  obtain ⟨hcode₂, hrun₂, herr₂, hout₂⟩ := hreachedVerbose.shown ho
  have hdiffer : ∀ x ∈ (runOf env o p.suite p.set).summary.results, x.Differs :=
    Run.all_results_differ false p.set
  have hconsole : { consoleOf env p.flags with quiet := false } = consoleOf env p.flags := by
    rw [consoleOf, hquiet]
  refine ⟨⟨hcode₁.trans hcode.symm, hcode₂.trans hcode.symm⟩,
    ⟨herr₁.trans herr.symm, herr₂.trans herr.symm⟩, runOf env o p.suite p.set,
    ⟨hrun, hrun₁, hrun₂⟩, hout.trans ?_, hout₁.trans ?_, hout₂.trans ?_⟩
  · rw [hquiet, hverbose, Run.output_out]
    rfl
  · have hquieted := Run.output_quiet (consoleOf env p.flags) (runOf env o p.suite p.set)
    have hbrief : (p.flags.switch .quiet).verbose = false := hverbose
    rw [hconsole] at hquieted
    rw [← hquieted, hbrief, if_pos (show (p.flags.switch .quiet).quiet = true from rfl),
      List.append_nil]
    rfl
  · have hloud : (p.flags.switch .verbose).quiet = false := hquiet
    rw [← Run.output_verbose _ _ hdiffer, hloud]
    rfl

/-- An invocation, a quiet and a verbose one end alike. If fixtures are run, the same are, and only what is
shown of the run is different. If none are, nothing is printed on standard output. -/
structure OnlyShowDifferently (env : Environment) (args : List Bytes) (c : Console) (elapsed' : Duration)
    (plain quiet verbose : Outcome) : Prop where
  code : quiet.code = plain.code ∧ verbose.code = plain.code
  err : quiet.output.err = plain.output.err ∧ verbose.output.err = plain.output.err
  shown : ∀ p, Plans env args p → ∃ r, ShowTheRun c p env.elapsed elapsed' r plain quiet verbose
  idle : (¬∃ p, Plans env args p) → plain.run = none ∧ quiet.run = none ∧ verbose.run = none
  silent : (¬∃ p, Plans env args p) →
    plain.output.out = [] ∧ quiet.output.out = [] ∧ verbose.output.out = []

/-- Flags for less and for more only filter or add: so much holds of any arguments that are accepted and
have neither, and of the same arguments with one of them in front. -/
theorem verbosity_filters {q v : Bytes} (hq : q ∈ Switch.quiet.spellings)
    (hv : v ∈ Switch.verbose.spellings) (hhelp : wantsHelp args = false)
    (hversion : wantsVersion args = false) (hparse : Flags.parse args = .ok flags)
    (hquiet : flags.quiet = false) (hverbose : flags.verbose = false) (t₁ t₂ : Duration) :
    OnlyShowDifferently env args (consoleOf env flags) t₂ (run env args)
      (run { env with elapsed := t₁ } (q :: args)) (run { env with elapsed := t₂ } (v :: args)) := by
  have hplain : run env args = _ := run_of_parse_ok hhelp hversion env hparse
  have hquiet' : run { env with elapsed := t₁ } (q :: args) = _ :=
    run_switch hq rfl hhelp hversion hparse (by simp [Flags.switch, hverbose]) _
  have hverbose' : run { env with elapsed := t₂ } (v :: args) = _ :=
    run_switch hv rfl hhelp hversion hparse (by simp [Flags.switch, hquiet]) _
  by_cases h : ∃ p, Plans env args p
  · rw [hplain, hquiet', hverbose']
    have hshown := fun p (hp : Plans env args p) => hp.showTheRun hparse hquiet hverbose t₁ t₂
    obtain ⟨p, hp⟩ := h
    obtain ⟨hcode, herr, -⟩ := hshown p hp
    exact {
      code := hcode
      err := herr
      shown := fun p hp => (hshown p hp).2.2
      idle := fun hnone => absurd ⟨p, hp⟩ hnone
      silent := fun hnone => absurd ⟨p, hp⟩ hnone }
  · have hunreached : ∀ config suite set, ¬Reached env flags config suite set :=
      fun config suite set hreached =>
        h ⟨⟨flags, config, suite, set⟩, plans_iff.mpr ⟨hhelp, hversion, hparse, hreached⟩⟩
    obtain ⟨r, hends, hout, hrun⟩ := exists_alwaysEnds hunreached
    have h₀ : run env args = r := hplain.trans (hends env.elapsed flags.quiet flags.verbose)
    have h₁ : run { env with elapsed := t₁ } (q :: args) = r :=
      hquiet'.trans (hends t₁ true flags.verbose)
    have h₂ : run { env with elapsed := t₂ } (v :: args) = r :=
      hverbose'.trans (hends t₂ flags.quiet true)
    rw [h₀, h₁, h₂]
    exact {
      code := ⟨rfl, rfl⟩
      err := ⟨rfl, rfl⟩
      shown := fun p hp => absurd ⟨p, hp⟩ h
      idle := fun _ => ⟨hrun, hrun, hrun⟩
      silent := fun _ => ⟨hout, hout, hout⟩ }

/-! ## Three invocations -/

/-- The files of a test case that passes, of one that fails and of one that is incomplete. -/
def trioListing : List (Bytes × Entry) :=
  [("a.asm", .file "println 1"), ("a.out", .file "1\n"), ("b.asm", .file "println 2"),
    ("b.out", .file "3\n"), ("c.asm", .file "println 4")]

def trioTree : Tree where
  cwd := []
  entries := (["cases"], .dir) :: trioListing.map fun entry => (["cases", entry.1], entry.2)

def trioEnvironment : Environment := { tree := trioTree, interpreter := Launch.installed [] }

def trioArgs : List Bytes := ["cases", "--lenient", "--runner", "fake-interp"]

def trioSet : FixtureSet where
  fixtures := [
    { id := "a"
      programPath := "cases/a.asm"
      expectedPath := "cases/a.out"
      expected := "1\n" },
    { id := "b"
      programPath := "cases/b.asm"
      expectedPath := "cases/b.out"
      expected := "3\n" },
    { id := "c"
      programPath := "cases/c.asm" }]

def trioPlan : Plan where
  flags := { directory := some "cases", runner := some ["fake-interp"], mode := Config.lenient }
  config :=
    { Config.default with directory := "cases", runner := ["fake-interp"], mode := Config.lenient }
  suite := ⟨trioTree, "cases"⟩
  set := trioSet

theorem trioTree_resolve :
    resolve trioTree "cases" (resolveOptions Config.default) = .ok trioSet := by
  have hsorted : trioListing.mergeSort (fun a b => Bytes.le a.1 b.1) = trioListing :=
    List.mergeSort_of_pairwise (by decide)
  exact resolve_eq_ok_iff.mpr ⟨trioListing, congrArg Except.ok hsorted, rfl⟩

theorem plans_trio : Plans trioEnvironment trioArgs trioPlan :=
  ⟨rfl, rfl, rfl, ⟨_, rfl, rfl⟩, rfl, trioTree_resolve, by decide⟩

/-- The texts of a plain, a quiet and a verbose invocation. -/
theorem verbosity_filters_demo :
    let plain := run trioEnvironment trioArgs
    let quiet := run { trioEnvironment with elapsed := ⟨1000000⟩ } ("-q" :: trioArgs)
    let verbose := run { trioEnvironment with elapsed := ⟨2000000⟩ } ("--verbose" :: trioArgs)
    plain.output.out = "Case cases/a.asm: Passed\n"
        ++ "Case cases/b.asm: Failed\n"
        ++ "  Expected: 3\n\n" ++ "  Got:      2\n\n" ++ "  Errors: \n"
        ++ "Case cases/c.asm: Incomplete\n" ++ "  missing expected output\n"
        ++ "\n=== Summary ===\n\n" ++ "  Passed: 1\n" ++ "  Failed: 1\n" ++ "  Incomplete: 1\n"
        ++ "  Total: 3\n" ++ "  Time: 0s\n"
        ++ "\n  Failed test cases:\n" ++ "    cases/b.asm: failed\n"
        ++ "\n1 of 3 test cases failed.\n" ∧
      quiet.output.out = "Case cases/b.asm: Failed\n"
        ++ "  Expected: 3\n\n" ++ "  Got:      2\n\n" ++ "  Errors: \n"
        ++ "Case cases/c.asm: Incomplete\n" ++ "  missing expected output\n" ∧
      verbose.output.out = "Running 3 test cases from cases with fake-interp\n"
        ++ "Case cases/a.asm: Passed\n"
        ++ "Case cases/b.asm: Failed\n"
        ++ "  Expected: 3\n\n" ++ "  Got:      2\n\n" ++ "  Errors: \n"
        ++ "  Diff (-expected +got):\n" ++ "      string(\n"
        ++ "    - \t\"3\\n\",\n" ++ "    + \t\"2\\n\",\n" ++ "      )\n"
        ++ "Case cases/c.asm: Incomplete\n" ++ "  missing expected output\n"
        ++ "\n=== Summary ===\n\n" ++ "  Passed: 1\n" ++ "  Failed: 1\n" ++ "  Incomplete: 1\n"
        ++ "  Total: 3\n" ++ "  Time: 2ms\n"
        ++ "\n  Failed test cases:\n" ++ "    cases/b.asm: failed\n"
        ++ "\n1 of 3 test cases failed.\n" ∧
      quiet.code = plain.code ∧ verbose.code = plain.code := by
  intro plain quiet verbose
  have hq : utf8 "-q" ∈ Switch.quiet.spellings := by decide
  have hv : utf8 "--verbose" ∈ Switch.verbose.spellings := by decide
  have h : OnlyShowDifferently trioEnvironment trioArgs {} ⟨2000000⟩ plain quiet verbose :=
    verbosity_filters hq hv plans_trio.noHelp plans_trio.noVersion plans_trio.parsed rfl rfl _ _
  obtain ⟨r, hshow⟩ := h.shown trioPlan plans_trio
  obtain ⟨o, ho⟩ := plans_trio.valid.options
  obtain rfl : r = runOf trioEnvironment o trioPlan.suite trioPlan.set :=
    Option.some.inj (hshow.run.1.symm.trans (plans_trio.run_run ho))
  cases ho
  exact ⟨hshow.plain.trans (by decide +kernel), hshow.quiet.trans (by decide +kernel),
    hshow.verbose.trans (by decide +kernel), h.code⟩

end Golden.Cli
