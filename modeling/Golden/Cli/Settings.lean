import Golden.Cli.Flags
import Golden.Config.Load
import Golden.Console.Basic

/-!
# Settings of an invocation

The configuration of a run comes from three places. A configuration file, named by a flag or found in
the working directory, sets fields over the defaults, and flags set fields over the file; only the
words for the interpreter are added up. The result is checked as a whole.
-/

namespace Golden.Cli

/-- What loading the configuration leads to: a configuration or a fault, and what is printed. -/
structure Loaded where
  result : Except Fault Config
  output : Output := {}

/-- The configuration file to use: the named one, or the first one found in the working directory. -/
def configPath? (t : Tree) (named : Bytes) : Option Bytes :=
  if named.isEmpty then Config.find? t "." else some named

/-- Puts a fault under the headline of its stage. -/
def inStage (kind : FaultKind) (message : Bytes) (cause : Fault) : Fault :=
  .classifiedBy ⟨kind, [], message⟩ cause

/-- Loads the configuration and prints its warnings; without a file the defaults hold. -/
def loadConfig (t : Tree) (c : Console) (named : Bytes) : Loaded :=
  match configPath? t named with
  | none => { result := .ok Config.default }
  | some path =>
    let loaded := Config.loadAndValidate t path
    { result := match loaded.result with
        | .ok config => .ok config
        | .error e => .error (inStage .config "invalid configuration" e)
      output := .concat (loaded.warnings.map fun w => c.warning (path ++ ": " ++ w)) }

/-- The number of jobs that a flag asks for. -/
def jobsOf (text : Bytes) (configured : Int) : Except Fault Int :=
  if text.isEmpty then .ok configured
  else
    match readInt64? text with
    | some n => .ok n
    | none => .error (.config ("invalid --jobs value " ++ quote text ++ ": must be an integer"))

/-- The configuration with the fields that flags set. -/
def override (config : Config) (o : Flags) (jobs : Int) : Config :=
  { config with
    directory := Config.orDefault (o.directory.getD []) config.directory
    mode := Config.orDefault o.mode config.mode
    extension := Config.orDefault o.extension config.extension
    inputMode := Config.orDefault o.inputMode config.inputMode
    jobs := jobs
    timeout := Config.orDefault o.timeout config.timeout
    runner := o.runner.getD config.runner
    incomplete := Config.orDefault o.incomplete config.incomplete
    extraArgs := config.extraArgs ++ o.extraArgs }

/-- Puts flags over a configuration and checks the result. -/
def applyFlags (config : Config) (o : Flags) : Except Fault Config :=
  match jobsOf o.jobs config.jobs with
  | .error e => .error e
  | .ok jobs =>
    match (override config o jobs).validate with
    | .ok () => .ok (override config o jobs)
    | .error issue => .error (inStage .validation "invalid option" issue.fault)

end Golden.Cli
