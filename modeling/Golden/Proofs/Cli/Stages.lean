import Golden.Proofs.Cli.Refusal
import Golden.Proofs.Run.Reports

/-!
# How far an invocation gets

An invocation either gets as far as running fixtures, or it ends before. If it does, what it leads to is
put together from the warnings, the note, the reports and the summary (`Plans.run_eq`). If it does not,
nothing is printed on standard output, and how it ends depends neither on the clock nor on how much is to
be shown (`exists_alwaysEnds`).
-/

namespace Golden.Cli

variable {env : Environment} {args : List Bytes} {flags : Flags} {config : Config} {p : Plan}
  {o : RunOptions}

@[simp] theorem Outcome.after_output (out : Output) (r : Outcome) :
    (r.after out).output = out ++ r.output := rfl

@[simp] theorem Outcome.after_run (out : Output) (r : Outcome) : (r.after out).run = r.run := rfl

/-- The flags lead to fixtures that can be run. -/
def Reached (env : Environment) (flags : Flags) (config : Config) (suite : Suite) (set : FixtureSet) :
    Prop :=
  configure env.tree flags = .ok config ∧ discover env config = .ok (suite, set) ∧ set.size ≠ 0

theorem discover_eq_ok_iff {suite : Suite} {set : FixtureSet} :
    discover env config = .ok (suite, set) ↔
      openSuite env config.directory = .ok suite ∧
        resolve suite.tree suite.dir (resolveOptions config) = .ok set := by
  unfold discover
  constructor
  · intro h
    split at h
    · cases h
    · rename_i hopen
      split at h
      · cases h
      · rename_i hset
        cases h
        exact ⟨hopen, hset⟩
  · rintro ⟨hopen, hset⟩
    simp only [hopen, hset]

theorem plans_iff :
    Plans env args p ↔ wantsHelp args = false ∧ wantsVersion args = false ∧
      Flags.parse args = .ok p.flags ∧ Reached env p.flags p.config p.suite p.set := by
  have hconfigure : configure env.tree p.flags = .ok p.config ↔ ∃ config,
      (loadConfig env.tree (consoleOf env p.flags) p.flags.configPath).result = .ok config ∧
        applyFlags config p.flags = .ok p.config := by
    rw [configure, loadConfig_result _ {} (consoleOf env p.flags)]
    cases (loadConfig env.tree (consoleOf env p.flags) p.flags.configPath).result <;> simp
  rw [Reached, hconfigure, discover_eq_ok_iff]
  constructor
  · intro h
    exact ⟨h.noHelp, h.noVersion, h.parsed, h.configured, ⟨h.opened, h.resolved⟩, h.nonempty⟩
  · rintro ⟨hhelp, hversion, hparse, hconfig, ⟨hopen, hset⟩, hne⟩
    exact ⟨hhelp, hversion, hparse, hconfig, hopen, hset, hne⟩

/-! ## Fixtures are run -/

/-- The run of fixtures with the interpreter of an environment. -/
def runOf (env : Environment) (o : RunOptions) (suite : Suite) (set : FixtureSet) : Run :=
  Run.all o (fun f => env.interpreter suite.tree o.timeout (o.args f)) false set

theorem runSet_eq (env : Environment) (c : Console) (o : RunOptions) (verbose : Bool) (suite : Suite)
    (set : FixtureSet) :
    runSet env c { o with verbose := verbose } suite set =
      { code := (runOf env o suite set).exitCode
        output := (runOf env o suite set).output c verbose
          ++ (if c.quiet then {} else (runOf env o suite set).summary.print c env.elapsed)
        run := some (runOf env o suite set) } := by
  unfold runSet
  dsimp only
  rw [Run.all_verbose]
  rfl

/-- What the flags lead to when there are fixtures to run: warnings, a note in a verbose run, and what
comes of the run. -/
theorem Reached.runFlags_eq {suite : Suite} {set : FixtureSet} (h : Reached env flags config suite set)
    (ho : RunOptions.ofConfig config = .ok o) :
    runFlags env (consoleOf env flags) flags =
      .after (loadConfig env.tree (consoleOf env flags) flags.configPath).output
        (.after (if flags.verbose && !flags.quiet then .line (startNote config set) else {})
          (runSet env (consoleOf env flags) { o with verbose := flags.verbose } suite set)) := by
  obtain ⟨hconfig, hfound, hne⟩ := h
  obtain ⟨hopen, hset⟩ := discover_eq_ok_iff.mp hfound
  rw [runFlags_of_configure_ok hconfig, runConfig]
  simp only [hopen, runSuite, hset, if_neg hne, ho]
  rfl

theorem Plans.run_eq (h : Plans env args p) (ho : RunOptions.ofConfig p.config = .ok o) :
    run env args =
      .after (loadConfig env.tree (consoleOf env p.flags) p.flags.configPath).output
        (.after (if p.flags.verbose && !p.flags.quiet then .line (startNote p.config p.set) else {})
          (runSet env (consoleOf env p.flags) { o with verbose := p.flags.verbose } p.suite p.set)) := by
  obtain ⟨hhelp, hversion, hparse, hreached⟩ := plans_iff.mp h
  rw [run_of_parse_ok hhelp hversion env hparse, hreached.runFlags_eq ho]

theorem Plans.run_run (h : Plans env args p) (ho : RunOptions.ofConfig p.config = .ok o) :
    (run env args).run = some (runOf env o p.suite p.set) := by
  rw [h.run_eq ho, runSet_eq]
  rfl

/-! ## Nothing is run -/

/-- The flags lead to this outcome, whatever the clock shows and however much is to be shown. -/
def AlwaysEnds (env : Environment) (flags : Flags) (r : Outcome) : Prop :=
  ∀ (elapsed : Duration) (quiet verbose : Bool),
    let flags' := { flags with quiet := quiet, verbose := verbose }
    runFlags { env with elapsed := elapsed } (consoleOf env flags') flags' = r

theorem alwaysEnds_of_configure_error {e : Fault} (h : configure env.tree flags = .error e) :
    AlwaysEnds env flags (refusal env flags e) := by
  intro elapsed quiet verbose flags'
  have h' : configure ({ env with elapsed := elapsed } : Environment).tree flags' = .error e := h
  exact runFlags_of_configure_error h'

theorem alwaysEnds_of_discover_error {e : Fault} (hconfig : configure env.tree flags = .ok config)
    (h : discover env config = .error e) : AlwaysEnds env flags (refusal env flags e) := by
  intro elapsed quiet verbose flags'
  have hconfig' : configure ({ env with elapsed := elapsed } : Environment).tree flags' = .ok config :=
    hconfig
  have h' : discover { env with elapsed := elapsed } config = .error e := h
  exact runFlags_of_discover_error hconfig' h'

/-- Where there are no fixtures, there is a warning. -/
theorem alwaysEnds_of_size_eq_zero {suite : Suite} {set : FixtureSet}
    (hconfig : configure env.tree flags = .ok config)
    (hfound : discover env config = .ok (suite, set)) (hsize : set.size = 0) :
    AlwaysEnds env flags
      (.after (loadConfig env.tree (consoleOf env flags) flags.configPath).output
        { code := .success
          output := (consoleOf env flags).warning ("no test cases found in " ++ config.directory) }) := by
  obtain ⟨hopen, hset⟩ := discover_eq_ok_iff.mp hfound
  intro elapsed quiet verbose flags'
  have hconfig' : configure ({ env with elapsed := elapsed } : Environment).tree flags' = .ok config :=
    hconfig
  have hopen' : openSuite { env with elapsed := elapsed } config.directory = .ok suite := hopen
  have hrun := runFlags_of_configure_ok hconfig'
  simp only [runConfig, hopen', runSuite, hset, if_pos hsize] at hrun
  exact hrun

/-- Flags that do not lead to fixtures always end an invocation in the same way, with nothing on standard
output. -/
theorem exists_alwaysEnds (h : ∀ config suite set, ¬Reached env flags config suite set) :
    ∃ r : Outcome, AlwaysEnds env flags r ∧ r.output.out = [] ∧ r.run = none := by
  obtain ⟨hout, -⟩ := loadConfig_output env.tree (consoleOf env flags) flags.configPath
  -- Both ways to end print on standard error only, the warnings first.
  have hsilent (o : Output) (ho : o.out = []) :
      ((loadConfig env.tree (consoleOf env flags) flags.configPath).output ++ o).out = [] := by
    rw [Output.append_def, hout, ho]
    rfl
  cases hconfig : configure env.tree flags with
  | error e => exact ⟨_, alwaysEnds_of_configure_error hconfig, hsilent _ rfl, rfl⟩
  | ok config =>
    cases hfound : discover env config with
    | error e => exact ⟨_, alwaysEnds_of_discover_error hconfig hfound, hsilent _ rfl, rfl⟩
    | ok found =>
      obtain ⟨suite, set⟩ := found
      have hsize : set.size = 0 := by
        by_contra hne
        exact h config suite set ⟨hconfig, hfound, hne⟩
      exact ⟨_, alwaysEnds_of_size_eq_zero hconfig hfound hsize, hsilent _ rfl, rfl⟩

/-! ## An invocation that gets there -/

def demoArgs : List Bytes := ["cases", "--runner", "fake-interp"]

theorem plans_demo : Plans demoEnvironment demoArgs demoPlan :=
  ⟨rfl, rfl, rfl, ⟨_, rfl, rfl⟩, rfl, demoTree_resolve, by decide⟩

end Golden.Cli
