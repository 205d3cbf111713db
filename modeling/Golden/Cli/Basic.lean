import Golden.Cli.Settings
import Golden.Cli.Usage
import Golden.Fixture.Archive
import Golden.Fixture.Resolve
import Golden.Interpreter.Launch
import Golden.Run.Basic

/-!
# The program

`run` is the whole program as a function: from a file tree, an argument list and an interpreter to an
exit code and what is printed. A wrong argument list or configuration ends it with one exit code, test
cases that cannot be read with another, and in both cases before any interpreter is started.
-/

namespace Golden.Cli

/-- The world in which the program is invoked. -/
structure Environment where
  tree : Tree
  /-- Does the output start out coloured? -/
  color : Bool := false
  /-- The path of temporary directories, up to a number that makes it free. -/
  temporary : Bytes := "suite"
  interpreter : Interpreter
  /-- How long the run takes. -/
  elapsed : Duration := ⟨0⟩

/-- What an invocation leads to. -/
structure Outcome where
  code : ExitCode
  output : Output := {}
  /-- The run, if there was one. -/
  run : Option Run := none
deriving DecidableEq, Repr

/-- An invocation that ends with a fault. -/
def Outcome.ofFault (c : Console) (f : Fault) : Outcome := { code := f.exitCode, output := c.error f.text }

/-- Something printed before the rest of an outcome. -/
def Outcome.after (o : Output) (r : Outcome) : Outcome := { r with output := o ++ r.output }

/-! ## Test cases -/

/-- The test cases to run: the tree they are in, and their directory. -/
structure Suite where
  tree : Tree
  dir : Bytes
deriving DecidableEq, Repr

/-- The path of a new temporary directory. -/
def Environment.scratch (env : Environment) : Bytes := env.tree.freePath env.temporary

/-- Finds the test cases; those of an archive are extracted to a new temporary directory first. -/
def openSuite (env : Environment) (directory : Bytes) : Except Fault Suite :=
  if isArchive directory then
    let extraction := Archive.extract (env.tree.place env.scratch .dir) directory env.scratch
    match extraction.fault with
    | some e => .error e
    | none => .ok ⟨extraction.tree, env.scratch⟩
  else .ok ⟨env.tree, directory⟩

/-- How fixtures are read under a configuration. -/
def resolveOptions (config : Config) : ResolveOptions :=
  ⟨config.extension, config.inputMode = Config.inlineInput⟩

/-! ## Running -/

/-- The note at the start of a verbose run. -/
def startNote (config : Config) (set : FixtureSet) : Bytes :=
  "Running " ++ decimal set.size ++ " test cases from " ++ config.directory ++ " with "
    ++ Bytes.join " " config.runner

/-- Runs fixtures and prints the reports and the summary. -/
def runSet (env : Environment) (c : Console) (o : RunOptions) (suite : Suite) (set : FixtureSet) :
    Outcome :=
  let result := Run.all o (fun f => env.interpreter suite.tree o.timeout (o.args f)) false set
  { code := result.exitCode
    output := result.output c o.verbose
      ++ (if c.quiet then {} else result.summary.print c env.elapsed)
    run := some result }

/-- Runs the fixtures of a suite under a configuration. -/
def runSuite (env : Environment) (c : Console) (flags : Flags) (config : Config) (suite : Suite) :
    Outcome :=
  match resolve suite.tree suite.dir (resolveOptions config) with
  | .error e => .ofFault c e
  | .ok set =>
    if set.size = 0 then
      { code := .success, output := c.warning ("no test cases found in " ++ config.directory) }
    else
      match RunOptions.ofConfig config with
      | .error issue => { code := .configError, output := c.error issue.fault.text }
      | .ok o =>
        let note : Output :=
          if flags.verbose && !c.quiet then .line (startNote config set) else {}
        .after note (runSet env c { o with verbose := flags.verbose } suite set)

/-- Loads the configuration, finds the test cases and runs them. -/
def runFlags (env : Environment) (c : Console) (flags : Flags) : Outcome :=
  let loaded := loadConfig env.tree c flags.configPath
  .after loaded.output <|
    match loaded.result with
    | .error e => .ofFault c e
    | .ok config =>
      match applyFlags config flags with
      | .error e => .ofFault c e
      | .ok config =>
        match openSuite env config.directory with
        | .error e => .ofFault c e
        | .ok suite => runSuite env c flags config suite

/-- The console that the flags ask for. -/
def consoleOf (env : Environment) (flags : Flags) : Console :=
  { color := env.color && !flags.noColor, quiet := flags.quiet }

/-- What is printed about a wrong argument list. -/
def usageError (c : Console) (e : FlagFault) : Output :=
  c.error e.text ++ .errorLine "Run 'asmcheck --help' for usage."

/-- The program. -/
def run (env : Environment) (args : List Bytes) : Outcome :=
  let c : Console := { color := env.color }
  if wantsHelp args then { code := .success, output := usage c }
  else if wantsVersion args then { code := .success, output := versionLine }
  else
    match Flags.parse args with
    | .error e => { code := .configError, output := usageError c e }
    | .ok flags => runFlags env (consoleOf env flags) flags

end Golden.Cli
