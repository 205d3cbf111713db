import Golden.Run.Options
import Golden.Run.Result

/-!
# Verdicts

What an interpreter did, and the result this means for the fixture. Only standard output counts: it
has to equal the expected output byte for byte, whatever the exit status and standard error are.
-/

namespace Golden

/-- How the execution of an interpreter ended. -/
inductive Ending where
  /-- By itself, with any exit status. -/
  | exited
  /-- It could not be started. -/
  | failed (cause : Fault)
  /-- Not by itself: it goes on until it is stopped. -/
  | waited
  /-- By itself, after it called the whole run off. -/
  | calledOff
deriving DecidableEq, Repr

/-- What an interpreter wrote, and how it ended. -/
structure Execution where
  stdout : Bytes := []
  stderr : Bytes := []
  ending : Ending := .exited
deriving DecidableEq, Repr

/-- The fault of a run that was called off. -/
def cancelFault : Fault := .plain "context canceled"

/-- The fault of an interpreter that was stopped at its time limit. -/
def timeoutFault (limit : Duration) : Fault := .plain ("timed out after " ++ limit.text)

namespace Result

/-- A fixture that lacks files. It is never run. -/
def incomplete (f : Fixture) : Result :=
  { fixture := f, status := .incomplete, fault := some (.incomplete f.id f.missingDescription) }

/-- A fixture that was never started because the run was called off. -/
def skipped (f : Fixture) : Result := { fixture := f, status := .notRun, fault := some cancelFault }

/-- A fixture whose interpreter was stopped, or whose output came too late, because the run was called
off. -/
def cancelled (f : Fixture) (e : Execution) : Result :=
  { fixture := f, status := .notRun, stdout := e.stdout, stderr := e.stderr, fault := some cancelFault }

/-- A fixture whose interpreter could not do its work. -/
def errored (f : Fixture) (e : Execution) (cause : Fault) : Result :=
  { fixture := f, status := .error, stdout := e.stdout, stderr := e.stderr,
    fault := some (.execution f.id (some cause)) }

/-- A fixture whose interpreter reached its time limit. -/
def timedOut (limit : Duration) (f : Fixture) (e : Execution) : Result :=
  errored f e (timeoutFault limit)

/-- A fixture whose interpreter ended by itself: the outputs are compared. -/
def compared (f : Fixture) (e : Execution) : Result :=
  { fixture := f, status := if e.stdout = f.expected then .passed else .failed,
    stdout := e.stdout, stderr := e.stderr }

/-- The result of an interpreter that was not stopped. -/
def judged (f : Fixture) (e : Execution) : Result :=
  match e.ending with
  | .failed cause => errored f e cause
  | _ => compared f e

end Result

/-- The result of a fixture in a run that is not called off by anybody else. An interpreter that does
not end by itself is stopped at the time limit; without one, only the end of the run stops it. -/
def verdict (o : RunOptions) (exec : Fixture → Execution) (f : Fixture) : Result :=
  if !f.isComplete then .incomplete f
  else
    let e := exec f
    match e.ending with
    | .exited => .judged f e
    | .failed _ => .judged f e
    | .waited => if o.timeout.ns > 0 then .timedOut o.timeout f e else .cancelled f e
    | .calledOff => .cancelled f e

end Golden
