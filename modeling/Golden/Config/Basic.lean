import Golden.Fixture.Classify

/-!
# Configuration

The settings of a run. Every field has a default, and a setting that is not given is empty: the
defaults are filled in afterwards, field by field. Modes are kept as they were written until the
configuration is validated.
-/

namespace Golden

/-- The settings of a run as given by a file, flags or defaults. -/
structure Config where
  /-- The directory of the test cases, or an archive of them. -/
  directory : Bytes := []
  /-- The first words of every interpreter invocation. -/
  runner : List Bytes := []
  extension : Bytes := []
  /-- How inputs reach the interpreter: `inline` or `file`. -/
  inputMode : Bytes := []
  inlineInputFlag : Bytes := []
  fileInputFlag : Bytes := []
  extraArgs : List Bytes := []
  /-- What a failure does to the run: `strict` or `lenient`. -/
  mode : Bytes := []
  /-- How many interpreters run at once; zero leaves the choice to the machine. -/
  jobs : Int := 0
  /-- Time limit of each test case as a written duration; zero is no limit. -/
  timeout : Bytes := []
  /-- What incomplete fixtures do to the run: `skip` or `fail`. -/
  incomplete : Bytes := []
deriving DecidableEq, Repr, Inhabited

namespace Config

/-- The mode that stops at the first failure. -/
def strict : Bytes := "strict"

/-- The mode that reports every fixture. -/
def lenient : Bytes := "lenient"

/-- Inputs as the value of a flag. -/
def inlineInput : Bytes := "inline"

/-- Inputs as the path of a file. -/
def fileInput : Bytes := "file"

/-- Incomplete fixtures do not count as failures. -/
def skipIncomplete : Bytes := "skip"

/-- Incomplete fixtures count as failures. -/
def failIncomplete : Bytes := "fail"

/-- Most interpreters that run at once. -/
def maxJobs : Nat := 256

/-- A value, or the default in place of an empty one. -/
def orDefault (value default : Bytes) : Bytes := if value.isEmpty then default else value

/-- Fills in the defaults of the fields that are not given. -/
def withDefaults (c : Config) : Config :=
  { c with
    directory := orDefault c.directory "test_cases/"
    runner := if c.runner.isEmpty then ["cargo", "-q", "run"] else c.runner
    extension := orDefault c.extension defaultProgramExtension
    inputMode := orDefault c.inputMode inlineInput
    inlineInputFlag := orDefault c.inlineInputFlag "-u"
    fileInputFlag := orDefault c.fileInputFlag "--stdin"
    mode := orDefault c.mode strict
    timeout := orDefault c.timeout "30s"
    incomplete := orDefault c.incomplete skipIncomplete }

/-- The configuration without any setting given. -/
def default : Config := withDefaults {}

end Config

/-! ## Fields -/

/-- The fields of a configuration file. -/
inductive Field where
  | directory
  | runner
  | extension
  | inputMode
  | inlineInputFlag
  | fileInputFlag
  | extraArgs
  | mode
  | jobs
  | timeout
  | incomplete
deriving DecidableEq, Repr

namespace Field

/-- The key of a field in a configuration file. -/
def key : Field → Bytes
  | .directory => "directory"
  | .runner => "runner"
  | .extension => "extension"
  | .inputMode => "input_mode"
  | .inlineInputFlag => "inline_input_flag"
  | .fileInputFlag => "file_input_flag"
  | .extraArgs => "extra_args"
  | .mode => "mode"
  | .jobs => "jobs"
  | .timeout => "timeout"
  | .incomplete => "incomplete"

/-- Every field. -/
def all : List Field :=
  [.directory, .runner, .extension, .inputMode, .inlineInputFlag, .fileInputFlag, .extraArgs, .mode,
    .jobs, .timeout, .incomplete]

/-- The field with exactly this key. -/
def ofKey? (k : Bytes) : Option Field := all.find? (·.key = k)

end Field

end Golden
