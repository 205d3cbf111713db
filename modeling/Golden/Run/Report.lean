import Golden.Console.Basic
import Golden.Diff.Layout
import Golden.Run.Verdict

/-!
# Reports

What is printed about each result of a run, and about the run as a whole.
-/

namespace Golden

/-! ## Results -/

/-- The report on a result; there is none on a fixture that did not run. -/
def Result.caseReport? (verbose : Bool) (r : Result) : Option CaseReport :=
  let f := r.fixture
  match r.status with
  | .notRun => none
  | .passed => some { program := f.displayName, status := CaseReport.passed }
  | .failed => some {
      program := f.displayName
      status := CaseReport.failed
      expected := f.expected
      actual := r.stdout
      stderr := r.stderr
      diff := if verbose then Diff.difference f.expected r.stdout else [] }
  | .error => some {
      program := f.displayName
      status := CaseReport.error
      detail := r.fault.elim [] Fault.detail
      stderr := r.stderr }
  | .incomplete => some {
      program := f.displayName
      status := CaseReport.incomplete
      detail := f.missingDescription }

/-- What is printed about a result. -/
def Result.report (c : Console) (verbose : Bool) (r : Result) : Output :=
  match r.caseReport? verbose with
  | none => {}
  | some report => c.case report

/-! ## Summaries -/

namespace Summary

/-- A line for a number that is left out when it is zero. -/
def countLine (line : Bytes → Bytes → Output) (label : Bytes) (n : Nat) : Output :=
  if n = 0 then {} else line label (decimal n)

/-- The totals. -/
def totals (c : Console) (elapsed : Duration) (s : Summary) : Output :=
  c.summaryPassed "Passed" (decimal s.passed)
    ++ countLine c.summaryFailed "Failed" s.failed
    ++ countLine c.summaryFailed "Errors" s.errored
    ++ countLine c.summaryItem "Incomplete" s.incomplete
    ++ (if s.aborted then
        c.summaryItem "Not run" (decimalInt s.notRun ++ " (stopped at first failure)") else {})
    ++ c.summaryItem "Total" (decimalInt s.total)
    ++ c.summaryItem "Time" elapsed.roundToMillisecond.text

/-- The list of failures. -/
def failureList (c : Console) (s : Summary) : Output :=
  if s.failedResults.isEmpty then {}
  else
    .line [] ++ c.summaryLabel "Failed test cases:"
      ++ .concat (s.failedResults.map fun r =>
        c.summaryFailed ("  " ++ r.fixture.displayName) r.status.name)

/-- The last line. -/
def finalLine (c : Console) (s : Summary) : Output :=
  if s.ok then
    c.finalSuccess (if s.incomplete > 0 then
        decimal s.passed ++ " test cases passed, " ++ decimal s.incomplete ++ " incomplete skipped."
      else "All " ++ decimal s.passed ++ " test cases passed.")
  else c.finalFailure (decimal s.failedResults.length ++ " of " ++ decimalInt s.total ++ " test cases failed.")

/-- What is printed at the end of a run. -/
def print (c : Console) (elapsed : Duration) (s : Summary) : Output :=
  c.summaryHeader "Summary" ++ s.totals c elapsed ++ s.failureList c ++ s.finalLine c

end Summary

end Golden
