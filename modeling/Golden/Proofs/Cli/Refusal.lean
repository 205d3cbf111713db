import Golden.Proofs.Cli.ExitCode
import Golden.Proofs.Config.Loading
import Golden.Proofs.Fixture.Readability

/-!
# Invocations that end before anything is run

An invocation can be refused in two ways. A wrong command line or configuration gives one exit code,
test cases that cannot be read another, and no other exit code says either. Whatever is refused is
refused cleanly: nothing on standard output, no interpreter started, and a message on standard error
(`exitCode_classifies`).

The stages before a run are put together in `configure` and `discover`; from them follows how an
invocation ends, and from their inversion lemmas when it ends in which way.
-/

namespace Golden

/-! ## The kind of a fault -/

theorem Archive.writeMembers_kind? {t : Tree} {dir : Bytes} {seen : List Bytes}
    {ms : List ArchiveMember} {e : Fault} (h : (writeMembers t dir seen ms).fault = some e) :
    e.kind? = some .discovery := by
  fun_induction writeMembers t dir seen ms with
  | case1 => cases h
  | case2 => cases h; exact Fault.kind?_discovery ..
  | case3 => cases h; exact Fault.kind?_discovery ..
  | case4 => cases h; exact Fault.kind?_discovery ..
  | case5 t seen m ms _ _ _ _ ih => exact ih h

theorem Archive.extract_kind? {t : Tree} {path dir : Bytes} {e : Fault}
    (h : (extract t path dir).fault = some e) : e.kind? = some .discovery := by
  unfold extract at h
  split at h
  · cases h
    exact Fault.kind?_discovery ..
  · exact writeMembers_kind? h

namespace Cli

/-- The configuration that the flags are put over: the one that the chosen file gives or, if there is
none, the default. -/
def StartsFrom (t : Tree) (named : Bytes) (c : Config) : Prop :=
  match configPath? t named with
  | none => c = Config.default
  | some path => Config.Gives t path c

theorem loadConfig_eq_ok_iff {t : Tree} (console : Console) {named : Bytes} {c : Config} :
    (loadConfig t console named).result = .ok c ↔ StartsFrom t named c := by
  unfold loadConfig StartsFrom
  cases hpath : configPath? t named with
  | none => simp [eq_comm]
  | some path =>
    simp only [← Config.loadAndValidate_eq_ok_iff]
    cases hload : (Config.loadAndValidate t path).result <;> simp

/-! ## The stages before a run -/

/-- The configuration of a run: what the files give, with the flags put over it. -/
def configure (t : Tree) (flags : Flags) : Except Fault Config :=
  match (loadConfig t {} flags.configPath).result with
  | .error e => .error e
  | .ok file => applyFlags file flags

/-- The fixtures of a run and where they are. -/
def discover (env : Environment) (config : Config) : Except Fault (Suite × FixtureSet) :=
  match openSuite env config.directory with
  | .error e => .error e
  | .ok suite =>
    match resolve suite.tree suite.dir (resolveOptions config) with
    | .error e => .error e
    | .ok set => .ok (suite, set)

theorem loadConfig_kind? {t : Tree} {console : Console} {named : Bytes} {e : Fault}
    (h : (loadConfig t console named).result = .error e) : e.kind? = some .config := by
  unfold loadConfig at h
  split at h
  · cases h
  · simp only at h
    split at h
    · cases h
    · cases h
      rfl

theorem applyFlags_exitCode {file : Config} {flags : Flags} {e : Fault}
    (h : applyFlags file flags = .error e) : e.exitCode = .configError := by
  unfold applyFlags at h
  split at h
  · rename_i hjobs
    cases h
    unfold jobsOf at hjobs
    split at hjobs
    · cases hjobs
    · split at hjobs
      · cases hjobs
      · cases hjobs
        rfl
  · split at h
    · cases h
    · cases h
      rfl

theorem configure_exitCode {t : Tree} {flags : Flags} {e : Fault}
    (h : configure t flags = .error e) : e.exitCode = .configError := by
  unfold configure at h
  split at h
  · rename_i hload
    cases h
    exact Fault.exitCode_of_kind? (loadConfig_kind? hload)
  · exact applyFlags_exitCode h

theorem openSuite_kind? {env : Environment} {directory : Bytes} {e : Fault}
    (h : openSuite env directory = .error e) : e.kind? = some .discovery := by
  unfold openSuite at h
  split at h
  · simp only at h
    split at h
    · rename_i hfault
      cases h
      exact Archive.extract_kind? hfault
    · cases h
  · cases h

theorem discover_exitCode {env : Environment} {config : Config} {e : Fault}
    (h : discover env config = .error e) : e.exitCode = .discoveryError := by
  unfold discover at h
  split at h
  · rename_i hopen
    cases h
    exact Fault.exitCode_of_kind? (openSuite_kind? hopen)
  · split at h
    · rename_i hresolve
      cases h
      exact Fault.exitCode_of_kind? (resolve_kind? hresolve)
    · cases h

theorem configure_valid {t : Tree} {flags : Flags} {config : Config}
    (h : configure t flags = .ok config) : config.Valid := by
  unfold configure at h
  split at h
  · cases h
  · obtain ⟨-, -, -, hvalid⟩ := applyFlags_eq_ok h
    exact hvalid

/-! ## How an invocation ends -/

/-- What an invocation leads to that is refused after its flags have been read: the warnings about the
configuration, and the fault. -/
def refusal (env : Environment) (flags : Flags) (e : Fault) : Outcome :=
  .after (loadConfig env.tree (consoleOf env flags) flags.configPath).output
    (.ofFault (consoleOf env flags) e)

variable {env : Environment} {args : List Bytes} {flags : Flags} {config : Config}

theorem runFlags_of_configure_error {e : Fault} (h : configure env.tree flags = .error e) :
    runFlags env (consoleOf env flags) flags = refusal env flags e := by
  rw [configure, loadConfig_result _ {} (consoleOf env flags)] at h
  unfold runFlags refusal
  split at h
  · rename_i hload
    cases h
    simp only [hload]
  · rename_i hload
    simp only [hload, h]

/-- What a configuration that has been found leads to. -/
def runConfig (env : Environment) (c : Console) (flags : Flags) (config : Config) : Outcome :=
  match openSuite env config.directory with
  | .error e => .ofFault c e
  | .ok suite => runSuite env c flags config suite

theorem runFlags_of_configure_ok (h : configure env.tree flags = .ok config) :
    runFlags env (consoleOf env flags) flags =
      .after (loadConfig env.tree (consoleOf env flags) flags.configPath).output
        (runConfig env (consoleOf env flags) flags config) := by
  rw [configure, loadConfig_result _ {} (consoleOf env flags)] at h
  unfold runFlags
  split at h
  · cases h
  · rename_i hload
    simp only [hload, h]
    rfl

theorem runFlags_of_discover_error {e : Fault} (hconfig : configure env.tree flags = .ok config)
    (h : discover env config = .error e) :
    runFlags env (consoleOf env flags) flags = refusal env flags e := by
  rw [runFlags_of_configure_ok hconfig, refusal, runConfig]
  unfold discover at h
  split at h
  · cases h
    rfl
  · split at h
    · rename_i hset
      cases h
      simp only [runSuite, hset]
    · cases h

/-- Fixtures that have been found are run, if there are any, and the exit code is that of the run. -/
theorem runFlags_of_discover_ok {found : Suite × FixtureSet}
    (hconfig : configure env.tree flags = .ok config) (h : discover env config = .ok found) :
    (runFlags env (consoleOf env flags) flags).code = .success ∨
      (runFlags env (consoleOf env flags) flags).code = .failure := by
  obtain ⟨o, ho⟩ := (configure_valid hconfig).options
  rw [runFlags_of_configure_ok hconfig, Outcome.after_code, runConfig]
  unfold discover at h
  split at h
  · cases h
  · split at h
    · cases h
    · rename_i set hset
      simp only [runSuite, hset, ho]
      split
      · exact Or.inl rfl
      · rw [Outcome.after_code, runSet, Run.exitCode]
        split
        · exact Or.inl rfl
        · exact Or.inr rfl

/-! ## When an invocation is refused -/

/-- The arguments, put over the files, give this configuration. -/
def Configured (env : Environment) (args : List Bytes) (config : Config) : Prop :=
  ∃ flags file, Flags.parse args = .ok flags ∧ StartsFrom env.tree flags.configPath file ∧
    applyFlags file flags = .ok config

/-- The command line or the configuration is wrong: the flags cannot be read, the chosen file gives no
configuration, or the flags do not fit it. -/
def Misconfigured (env : Environment) (args : List Bytes) : Prop :=
  (∃ e, Flags.parse args = .error e) ∨
  ∃ flags, Flags.parse args = .ok flags ∧
    ((∃ path, configPath? env.tree flags.configPath = some path ∧
        ¬∃ c, Config.Gives env.tree path c) ∨
      ∃ file e, StartsFrom env.tree flags.configPath file ∧ applyFlags file flags = .error e)

/-- The test cases cannot be read: they are in an archive that cannot be extracted, or fixtures cannot
be found where they should be. -/
def Undiscovered (env : Environment) (config : Config) : Prop :=
  (isArchive config.directory = true ∧
    (Archive.extract (env.tree.place env.scratch .dir) config.directory env.scratch).fault ≠ none) ∨
  ∃ suite e, openSuite env config.directory = .ok suite ∧
    resolve suite.tree suite.dir (resolveOptions config) = .error e

theorem configure_eq_ok_iff {t : Tree} :
    configure t flags = .ok config ↔
      ∃ file, StartsFrom t flags.configPath file ∧ applyFlags file flags = .ok config := by
  simp only [← loadConfig_eq_ok_iff {}]
  unfold configure
  cases hload : (loadConfig t {} flags.configPath).result <;> simp

/-- Without a file there is a configuration to start from, so only a file can fail to give one. -/
theorem startsFrom_or_unusable (t : Tree) (named : Bytes) :
    (∃ c, StartsFrom t named c) ∨
      ∃ path, configPath? t named = some path ∧ ¬∃ c, Config.Gives t path c := by
  unfold StartsFrom
  cases hpath : configPath? t named with
  | none => exact Or.inl ⟨_, rfl⟩
  | some path =>
    by_cases hgives : ∃ c, Config.Gives t path c
    · exact Or.inl hgives
    · exact Or.inr ⟨path, rfl, hgives⟩

theorem configure_eq_error_iff {t : Tree} :
    (∃ e, configure t flags = .error e) ↔
      (∃ path, configPath? t flags.configPath = some path ∧ ¬∃ c, Config.Gives t path c) ∨
      ∃ file e, StartsFrom t flags.configPath file ∧ applyFlags file flags = .error e := by
  constructor
  · rintro ⟨e, h⟩
    rcases startsFrom_or_unusable t flags.configPath with ⟨file, hfile⟩ | hunusable
    · refine Or.inr ⟨file, e, hfile, ?_⟩
      rwa [configure, (loadConfig_eq_ok_iff {}).mpr hfile] at h
    · exact Or.inl hunusable
  · rintro (⟨path, hpath, hgives⟩ | ⟨file, e, hfile, happly⟩)
    · cases hconfig : configure t flags with
      | error e => exact ⟨e, rfl⟩
      | ok config =>
        obtain ⟨file, hfile, -⟩ := configure_eq_ok_iff.mp hconfig
        rw [StartsFrom, hpath] at hfile
        exact absurd ⟨file, hfile⟩ hgives
    · refine ⟨e, ?_⟩
      rw [configure, (loadConfig_eq_ok_iff {}).mpr hfile]
      exact happly

theorem discover_eq_error_iff :
    (∃ e, discover env config = .error e) ↔ Undiscovered env config := by
  unfold discover Undiscovered
  constructor
  · rintro ⟨e, h⟩
    split at h
    · rename_i hopen
      left
      unfold openSuite at hopen
      split at hopen
      · rename_i harchive
        refine ⟨harchive, fun hnone => ?_⟩
        simp only [hnone] at hopen
        cases hopen
      · cases hopen
    · rename_i suite hopen
      split at h
      · rename_i e' hset
        exact Or.inr ⟨suite, e', hopen, hset⟩
      · cases h
  · rintro (⟨harchive, hfault⟩ | ⟨suite, e, hopen, hset⟩)
    · obtain ⟨e, he⟩ := Option.ne_none_iff_exists'.mp hfault
      exact ⟨e, by simp [openSuite, harchive, he]⟩
    · exact ⟨e, by simp only [hopen, hset]⟩

/-! ## Refused cleanly -/

/-- Standard error has a line with an error message, behind whole lines. -/
def HasErrorLine (color : Bool) (err : Bytes) : Prop :=
  ∃ before message after : Bytes,
    err = before ++ (paint color [.red] "asmcheck:" ++ utf8 " " ++ message ++ utf8 "\n") ++ after ∧
      (before = [] ∨ before.getLast? = some 0x0a)

/-- Nothing is printed on standard output, no interpreter is started, and there is an error message. -/
structure RefusedCleanly (env : Environment) (args : List Bytes) : Prop where
  silent : (run env args).output.out = []
  notRun : (run env args).run = none
  anyInterpreter : ∀ i, run { env with interpreter := i } args = run env args
  message : ∃ color, (color = true → env.color = true) ∧
    HasErrorLine color (run env args).output.err

theorem getLast?_append_newline (s : Bytes) : (s ++ utf8 "\n").getLast? = some 0x0a := by
  show (s ++ [0x0a]).getLast? = some 0x0a
  simp

/-- Warnings are whole lines on standard error. -/
theorem concat_warnings (c : Console) (messages : List Bytes) :
    (Output.concat (messages.map c.warning)).out = [] ∧
      ((Output.concat (messages.map c.warning)).err = [] ∨
        (Output.concat (messages.map c.warning)).err.getLast? = some 0x0a) := by
  induction messages with
  | nil => exact ⟨rfl, Or.inl rfl⟩
  | cons m ms ih =>
    obtain ⟨hout, herr⟩ := ih
    rw [List.map_cons, Output.concat_cons, Output.append_def]
    refine ⟨?_, Or.inr ?_⟩
    · rw [hout]
      rfl
    · rcases herr with hnil | hlast
      · simp only [hnil, List.append_nil, Console.warning, Output.errorLine, getLast?_append_newline]
      · simp only [List.getLast?_append, hlast, Option.some_or]

theorem loadConfig_output (t : Tree) (c : Console) (named : Bytes) :
    (loadConfig t c named).output.out = [] ∧
      ((loadConfig t c named).output.err = [] ∨
        (loadConfig t c named).output.err.getLast? = some 0x0a) := by
  unfold loadConfig
  split
  · exact ⟨rfl, Or.inl rfl⟩
  · rename_i path _
    have hmap := concat_warnings c
      ((Config.loadAndValidate t path).warnings.map fun w => path ++ utf8 ": " ++ w)
    rwa [List.map_map] at hmap

/-- What is refused after its flags have been read is refused cleanly, whatever the interpreter. -/
theorem refusedCleanly_of_refusal {e : Fault}
    (hrun : ∀ i, run { env with interpreter := i } args = refusal env flags e) :
    RefusedCleanly env args := by
  have hself : run env args = refusal env flags e := hrun env.interpreter
  obtain ⟨hout, herr⟩ := loadConfig_output env.tree (consoleOf env flags) flags.configPath
  refine ⟨?_, ?_, fun i => (hrun i).trans hself.symm, (consoleOf env flags).color, ?_, ?_⟩
  · rw [hself]
    show (loadConfig env.tree (consoleOf env flags) flags.configPath).output.out ++ [] = []
    rw [hout, List.append_nil]
  · rw [hself]
    rfl
  · simp only [consoleOf, Bool.and_eq_true]
    exact And.left
  · rw [hself]
    exact ⟨_, e.text, [], (List.append_nil _).symm, herr⟩

theorem configured_iff (hparse : Flags.parse args = .ok flags) :
    Configured env args config ↔ configure env.tree flags = .ok config := by
  rw [configure_eq_ok_iff]
  constructor
  · rintro ⟨flags', file, hparse', hfile, happly⟩
    cases hparse.symm.trans hparse'
    exact ⟨file, hfile, happly⟩
  · rintro ⟨file, hfile, happly⟩
    exact ⟨flags, file, hparse, hfile, happly⟩

theorem misconfigured_iff (hparse : Flags.parse args = .ok flags) :
    Misconfigured env args ↔ ∃ e, configure env.tree flags = .error e := by
  rw [configure_eq_error_iff]
  constructor
  · rintro (⟨e, he⟩ | ⟨flags', hparse', h⟩)
    · cases hparse.symm.trans he
    · cases hparse.symm.trans hparse'
      exact h
  · intro h
    exact Or.inr ⟨flags, hparse, h⟩

/-! ## The classification -/

section Requests

variable (hhelp : wantsHelp args = false) (hversion : wantsVersion args = false)

include hhelp hversion

theorem run_of_parse_error (env : Environment) {e : FlagFault} (hparse : Flags.parse args = .error e) :
    run env args = { code := .configError, output := usageError { color := env.color } e } := by
  simp [run, hhelp, hversion, hparse]

theorem run_of_parse_ok (env : Environment) (hparse : Flags.parse args = .ok flags) :
    run env args = runFlags env (consoleOf env flags) flags := by
  simp [run, hhelp, hversion, hparse]

theorem refusedCleanly_of_parse_error {e : FlagFault} (hparse : Flags.parse args = .error e) :
    RefusedCleanly env args := by
  have hrun (env : Environment) := run_of_parse_error hhelp hversion env hparse
  refine ⟨?_, ?_, fun i => ?_, env.color, id, ?_⟩
  · rw [hrun]
    rfl
  · rw [hrun]
  · rw [hrun, hrun]
  · rw [hrun]
    exact ⟨[], e.text, utf8 "Run 'asmcheck --help' for usage." ++ utf8 "\n", rfl, Or.inl rfl⟩

/-- An invocation is refused for its arguments or its configuration, or it is refused for its test
cases, or it comes to a verdict. -/
theorem run_cases (env : Environment) :
    (Misconfigured env args ∧ (¬∃ config, Configured env args config) ∧
      (run env args).code = .configError ∧ RefusedCleanly env args) ∨
    (¬Misconfigured env args ∧ (∃ config, Configured env args config ∧ Undiscovered env config) ∧
      (run env args).code = .discoveryError ∧ RefusedCleanly env args) ∨
    (¬Misconfigured env args ∧ (¬∃ config, Configured env args config ∧ Undiscovered env config) ∧
      ((run env args).code = .success ∨ (run env args).code = .failure)) := by
  cases hparse : Flags.parse args with
  | error e =>
    refine Or.inl ⟨Or.inl ⟨e, hparse⟩, ?_, ?_, refusedCleanly_of_parse_error hhelp hversion hparse⟩
    · rintro ⟨config, flags, file, hparse', -⟩
      cases hparse.symm.trans hparse'
    · rw [run_of_parse_error hhelp hversion env hparse]
  | ok flags =>
    have hrun (env : Environment) := run_of_parse_ok hhelp hversion env hparse
    simp only [misconfigured_iff hparse, configured_iff hparse, ← discover_eq_error_iff]
    cases hconfig : configure env.tree flags with
    | error e =>
      -- `configure` and `discover` never look at the interpreter, so neither does a refusal.
      have hrefusal (i : Interpreter) :
          run { env with interpreter := i } args = refusal env flags e :=
        (hrun _).trans (runFlags_of_configure_error hconfig)
      refine Or.inl ⟨⟨e, rfl⟩, by simp, ?_, refusedCleanly_of_refusal hrefusal⟩
      rw [show run env args = _ from hrefusal env.interpreter]
      exact configure_exitCode hconfig
    | ok config =>
      right
      cases hfound : discover env config with
      | error e =>
        have hrefusal (i : Interpreter) :
            run { env with interpreter := i } args = refusal env flags e :=
          (hrun _).trans (runFlags_of_discover_error hconfig hfound)
        refine Or.inl ⟨by simp, ⟨config, rfl, e, hfound⟩, ?_, refusedCleanly_of_refusal hrefusal⟩
        rw [show run env args = _ from hrefusal env.interpreter]
        exact discover_exitCode hfound
      | ok found =>
        refine Or.inr ⟨by simp, by simp [hfound], ?_⟩
        rw [hrun]
        exact runFlags_of_discover_ok hconfig hfound

end Requests

/-- An invocation ends with exit code two iff its command line or its configuration is wrong, with
three iff only its test cases cannot be read, and with zero or one otherwise. With two and three it is
refused cleanly. Nothing else can stop it: a configuration that has been accepted always gives the
options of a run. -/
theorem exitCode_classifies (env : Environment) (args : List Bytes)
    (hhelp : wantsHelp args = false) (hversion : wantsVersion args = false) :
    ((run env args).code.code = 2 ↔ Misconfigured env args) ∧
    ((run env args).code.code = 3 ↔
      ∃ config, Configured env args config ∧ Undiscovered env config) ∧
    (¬Misconfigured env args →
      (¬∃ config, Configured env args config ∧ Undiscovered env config) →
      (run env args).code.code = 0 ∨ (run env args).code.code = 1) ∧
    ((run env args).code.code = 2 ∨ (run env args).code.code = 3 → RefusedCleanly env args) ∧
    (∀ config, Configured env args config → ∃ o, RunOptions.ofConfig config = .ok o) := by
  have hoptions : ∀ config, Configured env args config →
      ∃ o, RunOptions.ofConfig config = .ok o := by
    rintro config ⟨flags, file, -, -, happly⟩
    obtain ⟨-, -, -, hvalid⟩ := applyFlags_eq_ok happly
    exact hvalid.options
  rcases run_cases hhelp hversion env with
    ⟨hwrong, hnone, hcode, hclean⟩ | ⟨hright, hlost, hcode, hclean⟩ | ⟨hright, hfound, hcode⟩
  · rw [hcode]
    refine ⟨iff_of_true rfl hwrong, iff_of_false nofun ?_, fun h => absurd hwrong h,
      fun _ => hclean, hoptions⟩
    rintro ⟨config, hconfig, -⟩
    exact hnone ⟨config, hconfig⟩
  · rw [hcode]
    exact ⟨iff_of_false nofun hright, iff_of_true rfl hlost, fun _ h => absurd hlost h,
      fun _ => hclean, hoptions⟩
  · rcases hcode with hcode | hcode <;> rw [hcode]
    · exact ⟨iff_of_false nofun hright, iff_of_false nofun hfound, fun _ _ => Or.inl rfl, nofun,
        hoptions⟩
    · exact ⟨iff_of_false nofun hright, iff_of_false nofun hfound, fun _ _ => Or.inr rfl, nofun,
        hoptions⟩

/-- A directory that does not exist, under a configuration that is right. -/
theorem exitCode_of_missing_directory :
    (∃ config, Configured demoEnvironment ["nowhere"] config ∧
      Undiscovered demoEnvironment config) ∧
    RefusedCleanly demoEnvironment ["nowhere"] := by
  have hcode : (run demoEnvironment ["nowhere"]).code.code = 3 := rfl
  obtain ⟨-, hlost, -, hclean, -⟩ := exitCode_classifies demoEnvironment ["nowhere"] rfl rfl
  exact ⟨hlost.mp hcode, hclean (Or.inr hcode)⟩

end Cli

end Golden
