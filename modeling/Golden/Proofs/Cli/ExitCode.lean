import Golden.Cli.Basic
import Golden.Proofs.Config.Validity
import Golden.Proofs.Fixture.Grouping
import Golden.Proofs.Run.Schedule

/-!
# The exit code of the program

An invocation passes through several stages before anything is run; `Plan` is what it has found out by
then. From there on its exit code says whether all fixtures are as they should be
(`Plans.code_eq_success_iff`), and this does not depend on anything but the files, the interpreter and
the part of the configuration that decides what is run: not on the mode, although a strict run leaves
fixtures out, and not on how many interpreters run side by side.
-/

namespace Golden

/-- Every invocation of the interpreter exits, cannot be started, or is stopped at its limit. -/
def Interpreter.Settles (i : Interpreter) : Prop := ∀ t limit argv, (i t limit argv).Settled limit

theorem Fake.execution_settled (limit : Duration) (trace : Fake.Trace) :
    (trace.execution limit).Settled limit := by
  unfold Trace.execution Execution.Settled
  by_cases hlimit : 0 < limit.ns
  · simp only [gt_iff_lt, if_pos hlimit]
    cases (within limit.ns trace.actions).2 <;> simp [hlimit]
  · simp [hlimit]

/-- The installed interpreter is one of those that the exit code is about. -/
theorem Launch.installed_settles (home : Bytes) : (Launch.installed home).Settles := by
  intro t limit argv
  cases argv with
  | nil => trivial
  | cons name words =>
    simp only [Launch.installed]
    split_ifs with _ _ _ _ _ hshort
    -- What cannot be started fails; only a limit stops what has been started.
    any_goals trivial
    · simp only [Launch.isTooShort, Bool.and_eq_true, decide_eq_true_eq] at hshort
      exact hshort.1
    · exact Fake.execution_settled limit _

namespace Cli

/-! ## What is run -/

/-- What an invocation has found out when it starts to run fixtures. -/
structure Plan where
  flags : Flags
  config : Config
  suite : Suite
  set : FixtureSet

/-- The invocation gets as far as running these fixtures. -/
structure Plans (env : Environment) (args : List Bytes) (p : Plan) : Prop where
  noHelp : wantsHelp args = false
  noVersion : wantsVersion args = false
  parsed : Flags.parse args = .ok p.flags
  configured : ∃ config,
    (loadConfig env.tree (consoleOf env p.flags) p.flags.configPath).result = .ok config ∧
      applyFlags config p.flags = .ok p.config
  opened : openSuite env p.config.directory = .ok p.suite
  resolved : resolve p.suite.tree p.suite.dir (resolveOptions p.config) = .ok p.set
  nonempty : p.set.size ≠ 0

/-- The interpreter's part in the run of a fixture. -/
def Plan.execute (p : Plan) (env : Environment) (o : RunOptions) (f : Fixture) : Execution :=
  env.interpreter p.suite.tree o.timeout (o.args f)

/-- Is the fixture as it should be? If it is complete, its interpreter exits and writes exactly what the
file of its expected output holds; otherwise files may be missing. -/
def Plan.Accepts (p : Plan) (f : Fixture) (e : Execution) : Prop :=
  f.isComplete = true ∧ e.ending = .exited ∧
      p.suite.tree.read (Path.join p.suite.dir (f.id ++ expectedExtension)) = .ok e.stdout ∨
    f.isComplete = false ∧ p.config.incomplete = Config.skipIncomplete

/-! ## From the arguments to the run -/

@[simp] theorem Outcome.after_code (out : Output) (r : Outcome) : (r.after out).code = r.code := rfl

theorem applyFlags_eq_ok {file config : Config} {flags : Flags}
    (h : applyFlags file flags = .ok config) :
    ∃ jobs, jobsOf flags.jobs file.jobs = .ok jobs ∧ config = override file flags jobs ∧
      config.Valid := by
  unfold applyFlags at h
  split at h
  · cases h
  · rename_i jobs hjobs
    split at h
    · rename_i hvalid
      cases h
      exact ⟨jobs, hjobs, rfl, Config.validate_eq_ok_iff.mp hvalid⟩
    · cases h

variable {env : Environment} {args : List Bytes} {p : Plan} {o : RunOptions}

theorem Plans.valid (h : Plans env args p) : p.config.Valid := by
  obtain ⟨file, -, happly⟩ := h.configured
  obtain ⟨-, -, -, hvalid⟩ := applyFlags_eq_ok happly
  exact hvalid

/-- An invocation that gets as far as running fixtures ends with the exit code of the run. -/
theorem Plans.code_eq (h : Plans env args p) (ho : RunOptions.ofConfig p.config = .ok o) :
    (run env args).code =
      (Run.all { o with verbose := p.flags.verbose } (p.execute env o) false p.set).exitCode := by
  obtain ⟨file, hload, happly⟩ := h.configured
  have hsuite : (runSuite env (consoleOf env p.flags) p.flags p.config p.suite).code =
      (Run.all { o with verbose := p.flags.verbose } (p.execute env o) false p.set).exitCode := by
    simp only [runSuite, h.resolved, if_neg h.nonempty, ho, Outcome.after_code]
    rfl
  rw [← hsuite]
  simp only [run, h.noHelp, h.noVersion, h.parsed, Bool.false_eq_true, if_false, runFlags, hload,
    happly, h.opened, Outcome.after_code]

/-! ## From the run to the exit code -/

theorem ofConfig_incomplete {config : Config} (ho : RunOptions.ofConfig config = .ok o) :
    o.incomplete = config.incomplete := by
  unfold RunOptions.ofConfig at ho
  split at ho
  · cases ho
  · cases ho
    rfl

/-- A complete fixture has everything but perhaps an input. -/
theorem path_ne_nil_of_isComplete {f : Fixture} (h : f.isComplete = true) {role : Role}
    (hrole : role ≠ .input) : f.path role ≠ [] := by
  intro hnil
  cases role with
  | input => exact hrole rfl
  | program | expected => simp [Fixture.isComplete, Fixture.missing, hnil] at h

/-- A fixture is as it should be iff its verdict is no failure. -/
theorem Plans.accepts_iff (h : Plans env args p) (hi : env.interpreter.Settles)
    (ho : RunOptions.ofConfig p.config = .ok o) {f : Fixture} (hf : f ∈ p.set.fixtures) :
    (verdict o (p.execute env o) f).isFailure o.incomplete = false ↔
      p.Accepts f (p.execute env o f) := by
  rw [verdict_isFailure_eq_false_iff fun _ => hi _ _ _]
  unfold Plan.Accepts
  refine or_congr (and_congr_right fun hc => and_congr_right fun _ => ?_)
    (and_congr_right fun _ => ?_)
  · obtain ⟨listing, -, hlisting⟩ := resolve_eq_ok_iff.mp h.resolved
    have hrole : Role.expected ≠ .input := nofun
    have hne : f.expectedPath ≠ [] := path_ne_nil_of_isComplete hc hrole
    have hpath : f.expectedPath = Path.join p.suite.dir (f.id ++ expectedExtension) :=
      path_eq_slotPath hlisting hf .expected hne
    have hread := expected_of_mem hlisting hf
    rw [if_neg hne] at hread
    rw [← hpath, hread, Except.ok.injEq, eq_comm]
  · -- A valid policy is one of two, so one that does not count as a failure is the other.
    have hne : Config.skipIncomplete ≠ Config.failIncomplete := by decide
    rw [ofConfig_incomplete ho]
    rcases h.valid.incomplete with hinc | hinc
    · rw [hinc]
      exact iff_of_true hne rfl
    · rw [hinc]
      exact iff_of_false (fun h => h rfl) hne.symm

theorem Plan.noneCallsOff (hi : env.interpreter.Settles) :
    Run.NoneCallsOff (p.execute env o) p.set.fixtures := by
  intro f _ _ hoff
  have hs := hi p.suite.tree o.timeout (o.args f)
  unfold Execution.Settled at hs
  unfold Plan.execute at hoff
  rw [hoff] at hs
  exact hs

/-- The exit code is zero iff every fixture is as it should be. -/
theorem Plans.code_eq_success_iff (h : Plans env args p) (hi : env.interpreter.Settles)
    (ho : RunOptions.ofConfig p.config = .ok o) :
    (run env args).code = .success ↔
      ∀ f ∈ p.set.fixtures, p.Accepts f (p.execute env o f) := by
  rw [h.code_eq ho, Run.exitCode_eq_success_iff, Run.all_ok_iff (Plan.noneCallsOff hi)]
  -- Whether differences are shown plays no part in a verdict.
  exact forall₂_congr fun f hf => h.accepts_iff hi ho hf

theorem Plans.code_cases (h : Plans env args p) :
    (run env args).code = .success ∨ (run env args).code = .failure := by
  obtain ⟨o, ho⟩ := h.valid.options
  rw [h.code_eq ho, Run.exitCode]
  split
  · exact Or.inl rfl
  · exact Or.inr rfl

/-! ## Invocations that run the same -/

/-- Do two configurations run the same? They may differ in the mode and in the number of jobs. -/
def RunsTheSame (c c' : Config) : Prop := c' = { c with mode := c'.mode, jobs := c'.jobs }

/-- Do flags ask for the same run? They may differ in the mode, in the number of jobs, and in what is
shown. -/
def Flags.AskTheSame (a b : Flags) : Prop :=
  b = { a with
    mode := b.mode, jobs := b.jobs, quiet := b.quiet, verbose := b.verbose, noColor := b.noColor }

/-- What is loaded does not depend on the console. -/
theorem loadConfig_result (t : Tree) (c c' : Console) (named : Bytes) :
    (loadConfig t c named).result = (loadConfig t c' named).result := by
  unfold loadConfig
  split <;> rfl

variable {args' : List Bytes} {p' : Plan} {color : Bool} {elapsed : Duration}

theorem Plans.runsTheSame (h : Plans env args p)
    (h' : Plans { env with color := color, elapsed := elapsed } args' p')
    (hflags : p.flags.AskTheSame p'.flags) : RunsTheSame p.config p'.config := by
  obtain ⟨file, hload, happly⟩ := h.configured
  obtain ⟨file', hload', happly'⟩ := h'.configured
  have hpath : p'.flags.configPath = p.flags.configPath := by rw [hflags]
  -- Both start from the same file, which the flags they share name or leave to be found.
  rw [hpath, loadConfig_result _ _ (consoleOf env p.flags), hload] at hload'
  cases hload'
  obtain ⟨jobs, -, hconfig, -⟩ := applyFlags_eq_ok happly
  obtain ⟨jobs', -, hconfig', -⟩ := applyFlags_eq_ok happly'
  unfold RunsTheSame
  rw [hconfig, hconfig', hflags]
  rfl

theorem ofConfig_of_runsTheSame {c c' : Config} (hsame : RunsTheSame c c')
    (ho : RunOptions.ofConfig c = .ok o) :
    RunOptions.ofConfig c' = .ok { o with mode := c'.mode, jobs := c'.jobs } := by
  rw [hsame]
  unfold RunOptions.ofConfig at ho ⊢
  simp only
  split at ho
  · cases ho
  · cases ho
    rfl

/-- Invocations that run the same end with the same exit code. -/
theorem Plans.code_congr (h : Plans env args p) (hi : env.interpreter.Settles)
    (h' : Plans { env with color := color, elapsed := elapsed } args' p')
    (hsame : RunsTheSame p.config p'.config) :
    (run { env with color := color, elapsed := elapsed } args').code = (run env args).code := by
  obtain ⟨o, ho⟩ := h.valid.options
  have hsuite : p'.suite = p.suite := by
    have hopened := h'.opened
    rw [hsame] at hopened
    exact Except.ok.inj (hopened.symm.trans h.opened)
  have hset : p'.set = p.set := by
    have hresolved := h'.resolved
    rw [hsame, hsuite] at hresolved
    exact Except.ok.inj (hresolved.symm.trans h.resolved)
  have hincomplete : p'.config.incomplete = p.config.incomplete := by rw [hsame]
  -- Both exit codes say of the same fixtures and the same executions whether they are accepted.
  have hiff : (run { env with color := color, elapsed := elapsed } args').code = .success ↔
      (run env args).code = .success := by
    rw [h.code_eq_success_iff hi ho, h'.code_eq_success_iff hi (ofConfig_of_runsTheSame hsame ho),
      hset]
    refine forall₂_congr fun f _ => ?_
    unfold Plan.Accepts Plan.execute
    rw [hsuite, hincomplete]
    rfl
  rcases h.code_cases with hcode | hcode
  · rw [hcode]
    exact hiff.mpr hcode
  · rcases h'.code_cases with hcode' | hcode'
    · rw [hcode', hiff.mp hcode']
    · rw [hcode, hcode']

/-! ## The verdict -/

/-- The exit code of an invocation says whether all fixtures are as they should be. It is the same for every
invocation that runs the same, in either mode, with any number of jobs, and whatever is shown, and it is the
one that running side by side leads to, in every order. -/
structure CodeTellsAccepted (env : Environment) (args : List Bytes) (p : Plan) (o : RunOptions) :
    Prop where
  success : (run env args).code = .success ↔ ∀ f ∈ p.set.fixtures, p.Accepts f (p.execute env o f)
  failure : (run env args).code = .failure ↔ ¬∀ f ∈ p.set.fixtures, p.Accepts f (p.execute env o f)
  same : ∀ color elapsed args' p', Plans { env with color := color, elapsed := elapsed } args' p' →
    p.flags.AskTheSame p'.flags ∨ RunsTheSame p.config p'.config →
    (run { env with color := color, elapsed := elapsed } args').code = (run env args).code
  scheduled : ∀ c slots q,
    Pool.Reaches { o with verbose := p.flags.verbose } c slots (.steady (p.execute env o))
      (Pool.start p.set false) q →
    q.isOver = true →
    ((q.summary { o with verbose := p.flags.verbose }).ok = true ↔ (run env args).code = .success)

/-- The exit code is zero iff every fixture is as it should be, and one otherwise, however they are run. The
invocations that are compared are in one environment, but for the clock and the colours; so they share the
name of the temporary directory, which words of the interpreter's invocation may hold. -/
theorem exitCode_iff_accepted (h : Plans env args p) (hi : env.interpreter.Settles) :
    ∃ o, RunOptions.ofConfig p.config = .ok o ∧ CodeTellsAccepted env args p o := by
  obtain ⟨o, ho⟩ := h.valid.options
  have hsuccess := h.code_eq_success_iff hi ho
  refine ⟨o, ho, ?_⟩
  constructor
  case success => exact hsuccess
  case failure =>
    rw [← hsuccess]
    rcases h.code_cases with hcode | hcode <;> simp [hcode]
  case same =>
    intro color elapsed args' p' h' hsame
    exact h.code_congr hi h' (hsame.elim (h.runsTheSame h') id)
  case scheduled =>
    intro c slots q hrun hover
    have hq : Run.NoneCallsOff (p.execute env o) p.set.fixtures := Plan.noneCallsOff hi
    have hsteady : Pool.Steady _ c (p.execute env o) p.set q := .of_reaches hq hrun
    rw [hsteady.summary_eq hq hover, h.code_eq ho, Run.exitCode_eq_success_iff]

/-! ## An invocation -/

/-- The files of a test case that passes and of one that is incomplete. -/
def demoListing : List (Bytes × Entry) :=
  [("a.asm", .file "println 1"), ("a.out", .file "1\n"), ("b.asm", .file "println 2")]

def demoTree : Tree :=
  { cwd := []
    entries := (["cases"], .dir) :: demoListing.map fun entry => (["cases", entry.1], entry.2) }

def demoEnvironment : Environment := { tree := demoTree, interpreter := Launch.installed [] }

def demoSet : FixtureSet where
  fixtures := [
    { id := "a"
      programPath := "cases/a.asm"
      expectedPath := "cases/a.out"
      expected := "1\n" },
    { id := "b"
      programPath := "cases/b.asm" }]

/-- What a strict invocation finds out. -/
def demoPlan : Plan where
  flags := { directory := some "cases", runner := some ["fake-interp"] }
  config := { Config.default with directory := "cases", runner := ["fake-interp"] }
  suite := ⟨demoTree, "cases"⟩
  set := demoSet

/-- What a quiet and lenient one finds out. -/
def demoPlanLenient : Plan where
  flags := { demoPlan.flags with quiet := true, mode := Config.lenient, jobs := "7" }
  config := { demoPlan.config with mode := Config.lenient, jobs := 7 }
  suite := demoPlan.suite
  set := demoSet

theorem demoTree_resolve :
    resolve demoTree "cases" (resolveOptions Config.default) = .ok demoSet := by
  have hsorted : demoListing.mergeSort (fun a b => Bytes.le a.1 b.1) = demoListing :=
    List.mergeSort_of_pairwise (by decide)
  have hlist : demoTree.list "cases" = .ok demoListing := congrArg Except.ok hsorted
  rw [resolve, hlist]
  rfl

/-- A quiet, lenient and coloured invocation with seven jobs ends like a strict one. -/
theorem exitCode_of_demo :
    (run demoEnvironment ["cases", "--runner", "fake-interp"]).code = .success ∧
    (run { demoEnvironment with color := true }
      ["-q", "--lenient", "-j", "7", "cases", "--runner", "fake-interp"]).code = .success := by
  have hplan : Plans demoEnvironment ["cases", "--runner", "fake-interp"] demoPlan :=
    ⟨rfl, rfl, rfl, ⟨_, rfl, rfl⟩, rfl, demoTree_resolve, by decide⟩
  have hplan' : Plans { demoEnvironment with color := true }
      ["-q", "--lenient", "-j", "7", "cases", "--runner", "fake-interp"] demoPlanLenient :=
    ⟨rfl, rfl, rfl, ⟨_, rfl, rfl⟩, rfl, demoTree_resolve, by decide⟩
  obtain ⟨o, ho, hcodes⟩ := exitCode_iff_accepted hplan (Launch.installed_settles [])
  have hcode : (run demoEnvironment ["cases", "--runner", "fake-interp"]).code = .success := by
    refine hcodes.success.mpr fun f hf => ?_
    cases ho
    simp only [demoPlan, demoSet, List.mem_cons, List.not_mem_nil, or_false] at hf
    rcases hf with rfl | rfl
    · exact Or.inl ⟨rfl, rfl, rfl⟩
    · exact Or.inr ⟨rfl, rfl⟩
  exact ⟨hcode, (hcodes.same true _ _ _ hplan' (Or.inl rfl)).trans hcode⟩

end Cli

end Golden
