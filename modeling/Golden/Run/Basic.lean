import Golden.Fixture.Set
import Golden.Run.Report

/-!
# Runs

`run` takes the fixtures in order, judges each and adds up the results. In strict mode the first
failure ends it, and the fixtures after it are neither reported nor counted as anything but not run.

Interpreters may run side by side, but results are reported in the order of the fixtures, so the
outcome is the same as that of one fixture after the other.
-/

namespace Golden

/-- What a run did. -/
structure Run where
  summary : Summary
  /-- The fixtures whose interpreters were started, reported ones first. -/
  executed : List Fixture := []
deriving DecidableEq, Repr

namespace Run

/-- The result of a fixture; `cancelled` says whether the run has been called off before it. -/
def resultOf (o : RunOptions) (exec : Fixture → Execution) (cancelled : Bool) (f : Fixture) : Result :=
  if cancelled && f.isComplete then .skipped f else verdict o exec f

/-- Is the interpreter started for a fixture? -/
def starts (cancelled : Bool) (f : Fixture) : Bool := f.isComplete && !cancelled

/-- Does a fixture call the whole run off? -/
def callsOff (exec : Fixture → Execution) (f : Fixture) : Bool := (exec f).ending == .calledOff

/-- Takes fixtures in order, adding to a summary. -/
def continueWith (o : RunOptions) (exec : Fixture → Execution) (cancelled : Bool) (s : Summary) :
    List Fixture → Run
  | [] => { summary := s }
  | f :: fs =>
    let r := resultOf o exec cancelled f
    let s := s.add r
    let started := if starts cancelled f then [f] else []
    if o.isStrict && r.isFailure o.incomplete then
      { summary := { s with aborted := true, notRun := fs.length }, executed := started }
    else
      let rest := continueWith o exec (cancelled || (starts cancelled f && callsOff exec f)) s fs
      { rest with executed := started ++ rest.executed }

/-- The summary before any result. -/
def begin (o : RunOptions) (total : Nat) : Summary := { policy := o.incomplete, total := total }

/-- Runs every fixture of a set; `cancelled` says whether the run is called off from the start. -/
def all (o : RunOptions) (exec : Fixture → Execution) (cancelled : Bool) (set : FixtureSet) : Run :=
  continueWith o exec cancelled (begin o set.size) set.fixtures

/-- What is printed about the results. -/
def output (c : Console) (verbose : Bool) (r : Run) : Output :=
  .concat (r.summary.results.map (Result.report c verbose))

/-- The exit code that a run leads to. -/
def exitCode (r : Run) : ExitCode := if r.summary.ok then .success else .failure

end Run

end Golden
