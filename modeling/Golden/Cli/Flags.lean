import Golden.Config.Basic
import Golden.Text.Quote
import Golden.Text.Space

/-!
# Command-line flags

An argument list is read from left to right as items (`Item.read`): switches, flags with a value,
words, and the separator `--` with everything behind it. The first word is the directory of the test
cases; later words are split at blanks and passed on to the interpreter, and what stands behind the
separator is passed on as it is.
-/

namespace Golden.Cli

/-- Flags without a value. -/
inductive Switch where
  | strict
  | lenient
  | quiet
  | verbose
  | noColor
deriving DecidableEq, Repr

/-- The switch that an argument is. -/
def Switch.ofArg? (arg : Bytes) : Option Switch :=
  if arg = utf8 "--strict" then some .strict
  else if arg = utf8 "--lenient" then some .lenient
  else if arg = utf8 "-q" || arg = utf8 "--quiet" then some .quiet
  else if arg = utf8 "-v" || arg = utf8 "--verbose" then some .verbose
  else if arg = utf8 "--no-color" then some .noColor
  else none

/-- Flags with a value. -/
inductive ValueFlag where
  | extension
  | input
  | jobs
  | timeout
  | runner
  | config
  | incomplete
deriving DecidableEq, Repr

/-- The flag with a name. -/
def ValueFlag.ofName? (name : Bytes) : Option ValueFlag :=
  if name = utf8 "--ext" then some .extension
  else if name = utf8 "--input" then some .input
  else if name = utf8 "-j" || name = utf8 "--jobs" then some .jobs
  else if name = utf8 "--timeout" then some .timeout
  else if name = utf8 "--runner" then some .runner
  else if name = utf8 "--config" then some .config
  else if name = utf8 "--incomplete" then some .incomplete
  else none

/-- One item of an argument list. -/
inductive Item where
  | switch (s : Switch)
  /-- A flag, the name it was given by, and its value, if there is one. -/
  | value (f : ValueFlag) (name : Bytes) (v : Option Bytes)
  | word (w : Bytes)
  /-- The separator and all that follows it. -/
  | rest (args : List Bytes)
deriving DecidableEq, Repr

/-- The separator. -/
def separator : Bytes := "--"

/-- The items of an argument list. -/
def Item.read : List Bytes → List Item
  | [] => []
  | arg :: args =>
    match Switch.ofArg? arg with
    | some s => .switch s :: Item.read args
    | none =>
      match Bytes.cut '=' arg with
      | (name, v) =>
        match ValueFlag.ofName? name, v with
        | some f, some v => .value f name (some v) :: Item.read args
        | some f, none =>
          match args with
          | [] => [.value f name none]
          | v :: args => .value f name (some v) :: Item.read args
        | none, _ => if arg = separator then [.rest args] else .word arg :: Item.read args

/-- What the flags ask for. Empty texts leave the configured value as it is. -/
structure Flags where
  mode : Bytes := []
  extension : Bytes := []
  inputMode : Bytes := []
  jobs : Bytes := []
  timeout : Bytes := []
  runner : Option (List Bytes) := none
  configPath : Bytes := []
  incomplete : Bytes := []
  quiet : Bool := false
  verbose : Bool := false
  noColor : Bool := false
  /-- The directory of the test cases, or an archive. -/
  directory : Option Bytes := none
  /-- Words for the interpreter. -/
  extraArgs : List Bytes := []
deriving DecidableEq, Repr

/-- What can be wrong with an argument list. -/
inductive FlagFault where
  | valueMissing (name : Bytes)
  | unknown (arg : Bytes)
  | quietAndVerbose
  | commandMissing
deriving DecidableEq, Repr

/-- The text of a fault. -/
def FlagFault.text : FlagFault → Bytes
  | .valueMissing name => name ++ " requires a value"
  | .unknown arg => "unknown flag " ++ quote arg
  | .quietAndVerbose => "--quiet and --verbose are mutually exclusive"
  | .commandMissing => "--runner requires a command"

namespace Flags

/-- Takes a switch into account. -/
def switch (o : Flags) : Switch → Flags
  | .strict => { o with mode := Config.strict }
  | .lenient => { o with mode := Config.lenient }
  | .quiet => { o with quiet := true }
  | .verbose => { o with verbose := true }
  | .noColor => { o with noColor := true }

/-- Takes a value into account. -/
def set (o : Flags) (v : Bytes) : ValueFlag → Flags
  | .extension => { o with extension := v }
  | .input => { o with inputMode := v }
  | .jobs => { o with jobs := v }
  | .timeout => { o with timeout := v }
  | .runner => { o with runner := some (fields v) }
  | .config => { o with configPath := v }
  | .incomplete => { o with incomplete := v }

/-- Does a word look like a flag? A lone `-` does not. -/
def looksLikeFlag (w : Bytes) : Bool := Bytes.startsWith "-" w && w != utf8 "-"

/-- Takes an item into account. -/
def add (o : Flags) : Item → Except FlagFault Flags
  | .switch s => .ok (o.switch s)
  | .value f name v =>
    match v with
    | none => .error (.valueMissing name)
    | some v => if v.isEmpty then .error (.valueMissing name) else .ok (o.set v f)
  | .word w =>
    match o.directory with
    | none => if looksLikeFlag w then .error (.unknown w) else .ok { o with directory := some w }
    | some _ => .ok { o with extraArgs := o.extraArgs ++ fields w }
  | .rest args => .ok { o with extraArgs := o.extraArgs ++ args }

/-- Takes items into account, up to the first that is wrong. -/
def addAll (o : Flags) : List Item → Except FlagFault Flags
  | [] => .ok o
  | i :: is =>
    match o.add i with
    | .ok o => o.addAll is
    | .error e => .error e

/-- Checks what single items cannot show. -/
def check (o : Flags) : Except FlagFault Flags :=
  if o.quiet && o.verbose then .error .quietAndVerbose
  else if o.runner = some [] then .error .commandMissing
  else .ok o

/-- The flags of an argument list. -/
def parse (args : List Bytes) : Except FlagFault Flags :=
  match addAll {} (Item.read args) with
  | .ok o => o.check
  | .error e => .error e

end Flags

/-! ## Requests -/

/-- Is one of the names given before the separator? -/
def isGiven (names : List Bytes) (args : List Bytes) : Bool :=
  (args.takeWhile (· != separator)).any names.contains

/-- Is help asked for? -/
def wantsHelp (args : List Bytes) : Bool := isGiven ["-h", "--help"] args

/-- Is the version asked for? -/
def wantsVersion (args : List Bytes) : Bool := isGiven ["--version"] args

end Golden.Cli
