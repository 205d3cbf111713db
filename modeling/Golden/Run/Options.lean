import Golden.Config.Validate
import Golden.Fixture.Basic

/-!
# Run options

What a run needs to know, drawn from a validated configuration, and the words with which it invokes
the interpreter for a fixture.
-/

namespace Golden

/-- The options of a run. -/
structure RunOptions where
  /-- The first words of every invocation. -/
  command : List Bytes := []
  /-- Words between the command and the program. -/
  extraArgs : List Bytes := []
  inputMode : Bytes := []
  /-- The flag in front of an input's content. -/
  inlineFlag : Bytes := []
  /-- The flag in front of an input's path. -/
  fileFlag : Bytes := []
  mode : Bytes := []
  /-- How many interpreters run at once; zero or less leaves the choice to the machine. -/
  jobs : Int := 0
  /-- Time limit of each fixture; zero is no limit. -/
  timeout : Duration := ⟨0⟩
  /-- What incomplete fixtures do to the run. -/
  incomplete : Bytes := []
  /-- The working directory of the interpreter; empty for that of the program. -/
  dir : Bytes := []
  /-- Are differences shown? -/
  verbose : Bool := false
deriving DecidableEq, Repr

namespace RunOptions

/-- The options that a configuration asks for. -/
def ofConfig (c : Config) : Except ConfigIssue RunOptions :=
  match parseTimeout c.timeout with
  | .error e => .error e
  | .ok timeout => .ok {
      command := c.runner
      extraArgs := c.extraArgs
      inputMode := c.inputMode
      inlineFlag := c.inlineInputFlag
      fileFlag := c.fileInputFlag
      mode := c.mode
      jobs := c.jobs
      timeout := timeout
      incomplete := c.incomplete }

/-- Does the run end at the first failure? -/
def isStrict (o : RunOptions) : Bool := o.mode = Config.strict

/-- The words that pass the input of a fixture. -/
def inputArgs (o : RunOptions) (f : Fixture) : List Bytes :=
  if !f.hasInput then []
  else if o.inputMode = Config.fileInput then [o.fileFlag, f.inputPath]
  else [o.inlineFlag, f.input]

/-- The words of the interpreter's invocation for a fixture. -/
def args (o : RunOptions) (f : Fixture) : List Bytes :=
  o.command ++ o.extraArgs ++ [f.programPath] ++ o.inputArgs f

/-- How many interpreters run at once on a machine with the given number of processors. -/
def workers (o : RunOptions) (processors : Nat) : Nat :=
  min (max 1 (if o.jobs ≤ 0 then processors else o.jobs.toNat)) Config.maxJobs

end RunOptions

end Golden
