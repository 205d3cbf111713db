import Golden.Config.Basic
import Golden.Duration
import Golden.Fault
import Golden.Fixture.Basic

/-!
# Results

The outcome of each fixture and the totals of a run. Whether an incomplete fixture is a failure
depends on the policy; a run is successful when no result is a failure.
-/

namespace Golden

/-- How a fixture ended. -/
inductive Status where
  /-- It never started, or was stopped with the run. -/
  | notRun
  | passed
  | failed
  | error
  | incomplete
deriving DecidableEq, Repr, Inhabited

/-- The words for a status. -/
def Status.name : Status → Bytes
  | .notRun => "not run"
  | .passed => "passed"
  | .failed => "failed"
  | .error => "error"
  | .incomplete => "incomplete"

/-- The outcome of one fixture. -/
structure Result where
  fixture : Fixture
  status : Status
  stdout : Bytes := []
  stderr : Bytes := []
  /-- Why there is no verdict. -/
  fault : Option Fault := none
deriving DecidableEq, Repr

/-- Does the result make the run unsuccessful? -/
def Result.isFailure (policy : Bytes) (r : Result) : Bool :=
  match r.status with
  | .failed => true
  | .error => true
  | .incomplete => policy = Config.failIncomplete
  | _ => false

/-- The totals of a run. -/
structure Summary where
  /-- What incomplete fixtures do to the run. -/
  policy : Bytes := []
  /-- The reported results, in order. -/
  results : List Result := []
  /-- How many fixtures there are. Like `notRun`, it is set by whoever makes the run, and shown as it
  was set. -/
  total : Int := 0
  passed : Nat := 0
  failed : Nat := 0
  errored : Nat := 0
  incomplete : Nat := 0
  /-- How many fixtures an early end left unreported. -/
  notRun : Int := 0
  /-- Did the run end at the first failure? -/
  aborted : Bool := false
deriving DecidableEq, Repr

namespace Summary

/-- Adds a result. -/
def add (s : Summary) (r : Result) : Summary :=
  let s := { s with results := s.results ++ [r] }
  match r.status with
  | .passed => { s with passed := s.passed + 1 }
  | .failed => { s with failed := s.failed + 1 }
  | .error => { s with errored := s.errored + 1 }
  | .incomplete => { s with incomplete := s.incomplete + 1 }
  | .notRun => s

/-- Was the run successful? -/
def ok (s : Summary) : Bool :=
  s.failed = 0 && s.errored = 0 && (s.policy != Config.failIncomplete || s.incomplete = 0)

/-- The reported results that made the run unsuccessful. -/
def failedResults (s : Summary) : List Result := s.results.filter (Result.isFailure s.policy)

end Summary

end Golden
