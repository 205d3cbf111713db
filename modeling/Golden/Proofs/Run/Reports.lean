import Golden.Proofs.Run.Totals
import Mathlib.Data.List.Basic
import Mathlib.Tactic.SplitIfs

/-!
# Reports in quiet and in verbose runs

Quiet or verbose, a run takes the same results (`Run.all_verbose`), and only what it says about them
changes. A quiet run leaves out the reports on passed results (`Run.output_quiet`). A verbose one adds
what differs to the reports on failed ones (`Run.output_verbose`); there always is something to add, since
a result only fails with another output than the expected one (`Run.all_results_differ`).
-/

namespace Golden

/-! ## Outputs -/

theorem Output.concat_out (os : List Output) : (concat os).out = os.flatMap (·.out) := by
  induction os with
  | nil => rfl
  | cons o os ih => rw [concat_cons, append_def, ih, List.flatMap_cons]

theorem Output.concat_err_eq_nil {os : List Output} (h : ∀ o ∈ os, o.err = []) :
    (concat os).err = [] := by
  induction os with
  | nil => rfl
  | cons o os ih =>
    rw [List.forall_mem_cons] at h
    rw [concat_cons, append_def, h.1, ih h.2, List.nil_append]

/-! ## Differences -/

namespace Diff

theorem outerLine_append_ne_nil (s t : Bytes) : outerLine s ++ t ≠ [] := by
  unfold outerLine
  exact List.cons_ne_nil _ _

/-- In every layout, a difference starts with a line of its own. -/
theorem difference_ne_nil {x y : Bytes} (h : x ≠ y) : difference x y ≠ [] := by
  unfold difference
  rw [if_neg h]
  split_ifs
  · simp only [wholeLayout, List.append_assoc]
    exact outerLine_append_ne_nil _ _
  · unfold lineLayout
    dsimp only
    split
    · simp only [tripleLayout, List.append_assoc]
      exact outerLine_append_ne_nil _ _
    · simp only [joinLayout, List.append_assoc]
      exact outerLine_append_ne_nil _ _
  · simp only [joinLayout, List.append_assoc]
    exact outerLine_append_ne_nil _ _
  · simp only [byteLayout, List.append_assoc]
    exact outerLine_append_ne_nil _ _

end Diff

/-! ## The report on a result -/

namespace Result

variable {r : Result} (c : Console) (verbose : Bool)

/-- The block that shows how the output differs from the expected one. -/
def diffText (r : Result) : Bytes :=
  utf8 "  Diff (-expected +got):\n"
    ++ (Bytes.splitOn 0x0a (Bytes.dropRightWhile (· == 0x0a)
        (Diff.difference r.fixture.expected r.stdout))).flatMap fun line =>
          utf8 "    " ++ line ++ utf8 "\n"

/-- If the result is a failure, then for another output than the expected one. -/
def Differs (r : Result) : Prop := r.status = .failed → r.stdout ≠ r.fixture.expected

theorem diffBlock_difference (h : r.stdout ≠ r.fixture.expected) :
    CaseReport.diffBlock (Diff.difference r.fixture.expected r.stdout) = r.diffText := by
  have hne := Diff.difference_ne_nil h.symm
  rw [CaseReport.diffBlock, if_neg (by rwa [List.isEmpty_iff])]
  rfl

theorem report_err (r : Result) : (r.report c verbose).err = [] := by
  unfold report
  split
  · rfl
  · unfold Console.case
    split <;> rfl

/-- In quiet mode there is no report on a passed result, and the same one on any other. -/
theorem report_quiet (r : Result) :
    r.report { c with quiet := true } verbose =
      if r.status = .passed then {} else r.report { c with quiet := false } verbose := by
  have hfailed : CaseReport.failed ≠ CaseReport.passed := by decide
  have herror : CaseReport.error ≠ CaseReport.passed := by decide
  have hincomplete : CaseReport.incomplete ≠ CaseReport.passed := by decide
  cases hs : r.status <;>
    simp [report, caseReport?, Console.case, hs, hfailed, herror, hincomplete]

/-- In verbose mode the report on a failed result goes on with the difference, and the others are the
same. -/
theorem report_verbose (h : r.Differs) :
    (r.report c true).out =
      (r.report c false).out ++ if r.status = .failed then r.diffText else [] := by
  cases hs : r.status with
  | failed =>
    have hne : CaseReport.failed ≠ CaseReport.passed := by decide
    have hnone : CaseReport.diffBlock [] = [] := rfl
    simp [report, caseReport?, Console.case, CaseReport.body, CaseReport.headLine, hs, hne, hnone,
      diffBlock_difference (h hs)]
  | notRun | passed | error | incomplete => simp [report, caseReport?, hs]

end Result

/-! ## The results of a run -/

theorem verdict_differs (o : RunOptions) (exec : Fixture → Execution) (f : Fixture) :
    (verdict o exec f).Differs := by
  have hjudged (e : Execution) : (Result.judged f e).Differs := by
    intro hfailed
    unfold Result.judged at hfailed ⊢
    split at hfailed
    · cases hfailed
    · unfold Result.compared at hfailed ⊢
      simp only at hfailed ⊢
      split at hfailed
      · cases hfailed
      · assumption
  unfold verdict
  split
  · nofun
  · dsimp only
    split
    · exact hjudged _
    · exact hjudged _
    · split <;> nofun
    · nofun

namespace Run

variable {o : RunOptions} {exec : Fixture → Execution}

/-- What holds of the result of every fixture holds of all results of a run. -/
theorem continueWith_forall {P : Result → Prop} (hP : ∀ cancelled f, P (resultOf o exec cancelled f))
    (fs : List Fixture) (cancelled : Bool) (s : Summary) (hs : ∀ r ∈ s.results, P r) :
    ∀ r ∈ (continueWith o exec cancelled s fs).summary.results, P r := by
  induction fs generalizing cancelled s with
  | nil => exact hs
  | cons f fs ih =>
    have hadd : ∀ r ∈ (s.add (resultOf o exec cancelled f)).results, P r := by
      rw [Summary.add_results, List.forall_mem_append, List.forall_mem_singleton]
      exact ⟨hs, hP cancelled f⟩
    simp only [continueWith]
    split
    · exact hadd
    · exact ih _ _ hadd

theorem all_results_differ (cancelled : Bool) (set : FixtureSet) :
    ∀ r ∈ (all o exec cancelled set).summary.results, r.Differs := by
  refine continueWith_forall (fun cancelled f => ?_) _ _ _ nofun
  unfold resultOf
  split
  · nofun
  · exact verdict_differs o exec f

/-- Whether differences are shown plays no part in a run. -/
theorem continueWith_verbose (verbose cancelled : Bool) (s : Summary) (fs : List Fixture) :
    continueWith { o with verbose := verbose } exec cancelled s fs
      = continueWith o exec cancelled s fs := by
  induction fs generalizing cancelled s with
  | nil => rfl
  | cons f fs ih =>
    simp only [continueWith, ih]
    rfl

theorem all_verbose (verbose cancelled : Bool) (set : FixtureSet) :
    all { o with verbose := verbose } exec cancelled set = all o exec cancelled set :=
  continueWith_verbose verbose cancelled _ _

/-! ## What a run prints -/

variable (c : Console) (verbose : Bool) (r : Run)

/-- The reports on results, one after the other, without differences. -/
def reports (rs : List Result) : Bytes := rs.flatMap fun x => (x.report c false).out

theorem output_out :
    (r.output c verbose).out = r.summary.results.flatMap fun x => (x.report c verbose).out := by
  rw [output, Output.concat_out, List.flatMap_map]

theorem output_err : (r.output c verbose).err = [] := by
  refine Output.concat_err_eq_nil ?_
  rw [List.forall_mem_map]
  exact fun x _ => x.report_err c verbose

theorem output_quiet :
    (r.output { c with quiet := true } false).out =
      reports { c with quiet := false } (r.summary.results.filter (·.status ≠ .passed)) := by
  rw [output_out, reports]
  induction r.summary.results with
  | nil => rfl
  | cons x xs ih =>
    rw [List.flatMap_cons, ih, Result.report_quiet]
    by_cases hs : x.status = .passed
    · simp [hs]
    · simp [hs]

theorem output_verbose (h : ∀ x ∈ r.summary.results, x.Differs) :
    (r.output c true).out = r.summary.results.flatMap fun x =>
      (x.report c false).out ++ if x.status = .failed then x.diffText else [] := by
  rw [output_out]
  exact List.flatMap_congr fun x hx => x.report_verbose c (h x hx)

end Run

/-- A summary is for standard output. -/
theorem Summary.print_err (s : Summary) (c : Console) (elapsed : Duration) :
    (s.print c elapsed).err = [] := by
  have happend {a b : Output} (ha : a.err = []) (hb : b.err = []) : (a ++ b).err = [] := by
    rw [Output.append_def, ha, hb, List.nil_append]
  have hcount {line : Bytes → Bytes → Output} (hline : ∀ label value, (line label value).err = [])
      (label : Bytes) (n : Nat) : (countLine line label n).err = [] := by
    unfold countLine
    split
    · rfl
    · exact hline _ _
  have hfailures : (s.failureList c).err = [] := by
    unfold failureList
    split
    · rfl
    · refine happend rfl (Output.concat_err_eq_nil ?_)
      rw [List.forall_mem_map]
      exact fun _ _ => rfl
  have hfinal : (s.finalLine c).err = [] := by
    unfold finalLine
    split <;> rfl
  have hnotRun : (if s.aborted then c.summaryItem "Not run"
      (decimalInt s.notRun ++ " (stopped at first failure)") else {}).err = [] := by
    split <;> rfl
  have htotals : (s.totals c elapsed).err = [] :=
    happend (happend (happend (happend (happend (happend rfl (hcount (fun _ _ => rfl) _ _))
      (hcount (fun _ _ => rfl) _ _)) (hcount (fun _ _ => rfl) _ _)) hnotRun) rfl) rfl
  exact happend (happend (happend rfl htotals) hfailures) hfinal

end Golden
