import Golden.Run.Basic

/-!
# The totals of a run

What a run reports is decided by the verdicts on its fixtures alone: `reportedCount` says how many of
them it takes, and `Run.all_summary` that its totals are those of the verdicts taken.

* `Summary.Counted` — the counters of a summary count its results, which adding a result keeps
* `Summary.Counted.ok_iff` — a run is successful iff no reported result is a failure
* `Run.all_ok_iff` — and therefore iff no verdict is a failure, reported or not: a strict run leaves
  out verdicts only behind a failure
-/

namespace Golden

/-! ## Counters -/

namespace Summary

@[simp] theorem add_results (s : Summary) (r : Result) :
    (s.add r).results = s.results ++ [r] := by
  unfold add
  cases r.status <;> rfl

@[simp] theorem add_policy (s : Summary) (r : Result) : (s.add r).policy = s.policy := by
  unfold add
  cases r.status <;> rfl

@[simp] theorem add_aborted (s : Summary) (r : Result) : (s.add r).aborted = s.aborted := by
  unfold add
  cases r.status <;> rfl

@[simp] theorem add_notRun (s : Summary) (r : Result) : (s.add r).notRun = s.notRun := by
  unfold add
  cases r.status <;> rfl

@[simp] theorem foldl_add_results (rs : List Result) (s : Summary) :
    (rs.foldl add s).results = s.results ++ rs := by
  induction rs generalizing s with
  | nil => simp
  | cons r rs ih => simp [ih]

@[simp] theorem foldl_add_policy (rs : List Result) (s : Summary) :
    (rs.foldl add s).policy = s.policy := by
  induction rs generalizing s with
  | nil => rfl
  | cons r rs ih => simp [ih]

@[simp] theorem foldl_add_aborted (rs : List Result) (s : Summary) :
    (rs.foldl add s).aborted = s.aborted := by
  induction rs generalizing s with
  | nil => rfl
  | cons r rs ih => simp [ih]

@[simp] theorem foldl_add_notRun (rs : List Result) (s : Summary) :
    (rs.foldl add s).notRun = s.notRun := by
  induction rs generalizing s with
  | nil => rfl
  | cons r rs ih => simp [ih]

/-- Each counter is the number of results with its status. -/
structure Counted (s : Summary) : Prop where
  passed : s.passed = s.results.countP (·.status = .passed)
  failed : s.failed = s.results.countP (·.status = .failed)
  errored : s.errored = s.results.countP (·.status = .error)
  incomplete : s.incomplete = s.results.countP (·.status = .incomplete)

theorem Counted.add {s : Summary} (h : s.Counted) (r : Result) : (s.add r).Counted := by
  obtain ⟨hp, hf, he, hi⟩ := h
  constructor <;>
    (rw [add_results, List.countP_append, List.countP_singleton]
     unfold Summary.add
     cases hs : r.status <;> simp [hp, hf, he, hi])

theorem Counted.foldl {s : Summary} (h : s.Counted) (rs : List Result) :
    (rs.foldl Summary.add s).Counted := by
  induction rs generalizing s with
  | nil => exact h
  | cons r rs ih => exact ih (h.add r)

/-- A run is successful iff no reported result is a failure. -/
theorem Counted.ok_iff {s : Summary} (h : s.Counted) :
    s.ok = true ↔ ∀ r ∈ s.results, r.isFailure s.policy = false := by
  obtain ⟨-, hf, he, hi⟩ := h
  unfold ok
  rw [hf, he, hi]
  constructor
  · intro hok r hr
    simp only [Bool.and_eq_true, Bool.or_eq_true, decide_eq_true_eq, List.countP_eq_zero,
      bne_iff_ne] at hok
    obtain ⟨⟨hnf, hne⟩, hpol⟩ := hok
    unfold Result.isFailure
    cases hs : r.status with
    | failed => exact absurd hs (hnf r hr)
    | error => exact absurd hs (hne r hr)
    | incomplete =>
      rcases hpol with hpol | hni
      · simp [hpol]
      · exact absurd hs (hni r hr)
    | notRun => rfl
    | passed => rfl
  · intro hall
    simp only [Bool.and_eq_true, Bool.or_eq_true, decide_eq_true_eq, List.countP_eq_zero,
      bne_iff_ne]
    refine ⟨⟨?_, ?_⟩, ?_⟩
    · intro r hr hs
      have := hall r hr
      simp [Result.isFailure, hs] at this
    · intro r hr hs
      have := hall r hr
      simp [Result.isFailure, hs] at this
    · by_cases hpol : s.policy = Config.failIncomplete
      · right
        intro r hr hs
        have := hall r hr
        simp [Result.isFailure, hs, hpol] at this
      · exact Or.inl hpol

end Summary

/-! ## How far a run goes -/

/-- How many of the verdicts a run reports: all of them, except that a strict run ends with the first
failure. -/
def reportedCount (o : RunOptions) (rs : List Result) : Nat :=
  if o.isStrict then
    match rs.findIdx? (Result.isFailure o.incomplete) with
    | some i => i + 1
    | none => rs.length
  else rs.length

/-- Does the run end at this result? -/
def RunOptions.endsAt (o : RunOptions) (r : Result) : Bool := o.isStrict && r.isFailure o.incomplete

@[simp] theorem reportedCount_nil (o : RunOptions) : reportedCount o [] = 0 := by
  unfold reportedCount
  split <;> rfl

theorem reportedCount_cons (o : RunOptions) (r : Result) (rs : List Result) :
    reportedCount o (r :: rs) = if o.endsAt r then 1 else reportedCount o rs + 1 := by
  unfold reportedCount RunOptions.endsAt
  cases o.isStrict with
  | false => simp
  | true =>
    cases hr : r.isFailure o.incomplete with
    | true => simp [List.findIdx?_cons, hr]
    | false =>
      simp only [List.findIdx?_cons, hr, if_true, Bool.and_false, Bool.false_eq_true, if_false]
      cases rs.findIdx? (Result.isFailure o.incomplete) <;> simp

theorem reportedCount_le_length (o : RunOptions) (rs : List Result) :
    reportedCount o rs ≤ rs.length := by
  induction rs with
  | nil => simp
  | cons r rs ih =>
    rw [reportedCount_cons, List.length_cons]
    split <;> omega

/-- Without a result that ends the run, everything is reported. -/
theorem reportedCount_eq_length {o : RunOptions} {rs : List Result}
    (h : ∀ r ∈ rs, o.endsAt r = false) : reportedCount o rs = rs.length := by
  induction rs with
  | nil => simp
  | cons r rs ih =>
    rw [reportedCount_cons, h r List.mem_cons_self, if_neg (by simp),
      ih (fun x hx => h x (List.mem_cons_of_mem _ hx)), List.length_cons]

/-- The first result that ends the run is the last one reported. -/
theorem reportedCount_append_cons {o : RunOptions} {before after : List Result} {r : Result}
    (hb : ∀ x ∈ before, o.endsAt x = false) (hr : o.endsAt r = true) :
    reportedCount o (before ++ r :: after) = before.length + 1 := by
  induction before with
  | nil => rw [List.nil_append, reportedCount_cons, if_pos hr]; rfl
  | cons x before ih =>
    rw [List.cons_append, reportedCount_cons, hb x List.mem_cons_self, if_neg (by simp),
      ih (fun y hy => hb y (List.mem_cons_of_mem _ hy)), List.length_cons]

/-- What a run leaves unreported stands behind a failure. -/
theorem forall_take_reportedCount {o : RunOptions} {rs : List Result} :
    (∀ r ∈ rs.take (reportedCount o rs), r.isFailure o.incomplete = false)
      ↔ ∀ r ∈ rs, r.isFailure o.incomplete = false := by
  induction rs with
  | nil => simp
  | cons r rs ih =>
    rw [reportedCount_cons]
    by_cases hend : o.endsAt r = true
    · have hr : r.isFailure o.incomplete = true := by
        simp only [RunOptions.endsAt, Bool.and_eq_true] at hend
        exact hend.2
      rw [if_pos hend]
      simp [hr]
    · rw [if_neg hend, List.take_succ_cons]
      simp only [List.forall_mem_cons, ih]

/-! ## What the verdict is -/

/-- Did the execution end in one of the ways an interpreter can end under the limit? Without a limit
none is stopped by it, and none calls the run off. -/
def Execution.Settled (limit : Duration) (e : Execution) : Prop :=
  match e.ending with
  | .exited => True
  | .failed _ => True
  | .waited => 0 < limit.ns
  | .calledOff => False

section Verdict

variable {o : RunOptions} {exec : Fixture → Execution} {f : Fixture}

theorem verdict_eq_incomplete (hc : f.isComplete = false) : verdict o exec f = .incomplete f := by
  simp [verdict, hc]

/-- A complete fixture whose interpreter waited gets the verdict of the second look. -/
theorem verdict_eq_timedOut (hc : f.isComplete = true) (hw : (exec f).ending = .waited)
    (ht : 0 < o.timeout.ns) : verdict o exec f = .timedOut o.timeout f (exec f) := by
  simp [verdict, hc, hw, ht]

/-- A complete fixture whose interpreter came back by itself is judged. -/
theorem verdict_eq_judged (hc : f.isComplete = true) (hw : (exec f).ending ≠ .waited)
    (hq : (exec f).ending ≠ .calledOff) : verdict o exec f = .judged f (exec f) := by
  unfold verdict
  cases he : (exec f).ending with
  | exited => simp [hc, he]
  | failed cause => simp [hc, he]
  | waited => exact absurd he hw
  | calledOff => exact absurd he hq

/-- A verdict is no failure iff the interpreter exited with the expected output, or the fixture is
incomplete and may be. -/
theorem verdict_isFailure_eq_false_iff (hs : f.isComplete = true → (exec f).Settled o.timeout)
    (policy : Bytes) :
    (verdict o exec f).isFailure policy = false ↔
      f.isComplete = true ∧ (exec f).ending = .exited ∧ (exec f).stdout = f.expected ∨
      f.isComplete = false ∧ policy ≠ Config.failIncomplete := by
  cases hc : f.isComplete with
  | false =>
    rw [verdict_eq_incomplete hc]
    simp [Result.incomplete, Result.isFailure]
  | true =>
    have hs := hs hc
    unfold Execution.Settled at hs
    cases he : (exec f).ending with
    | exited =>
      rw [verdict_eq_judged hc (by simp [he]) (by simp [he])]
      by_cases hout : (exec f).stdout = f.expected
      · simp [Result.judged, Result.compared, Result.isFailure, he, hout]
      · simp [Result.judged, Result.compared, Result.isFailure, he, hout]
    | failed cause =>
      rw [verdict_eq_judged hc (by simp [he]) (by simp [he])]
      simp [Result.judged, Result.errored, Result.isFailure, he]
    | waited =>
      rw [he] at hs
      rw [verdict_eq_timedOut hc he hs]
      simp [Result.timedOut, Result.errored, Result.isFailure]
    | calledOff =>
      rw [he] at hs
      exact hs.elim

end Verdict

/-! ## Runs -/

namespace Run

variable {o : RunOptions} {exec : Fixture → Execution}

/-- No interpreter calls the run off. -/
def NoneCallsOff (exec : Fixture → Execution) (fs : List Fixture) : Prop :=
  ∀ f ∈ fs, f.isComplete = true → (exec f).ending ≠ .calledOff

/-- The totals of a run are those of the verdicts it reports. -/
theorem continueWith_summary {fs : List Fixture} (hq : NoneCallsOff exec fs) (s : Summary) :
    (continueWith o exec false s fs).summary =
      let vs := fs.map (verdict o exec)
      let s' := (vs.take (reportedCount o vs)).foldl Summary.add s
      if vs.any o.endsAt then
        { s' with aborted := true, notRun := (fs.length : Int) - reportedCount o vs }
      else s' := by
  induction fs generalizing s with
  | nil => simp [continueWith]
  | cons f fs ih =>
    have hr : resultOf o exec false f = verdict o exec f := by simp [resultOf]
    have hoff : (starts false f && callsOff exec f) = false := by
      by_cases hc : f.isComplete = true
      · have hne := hq f List.mem_cons_self hc
        simp [starts, callsOff, hc, hne]
      · simp [starts, hc]
    have hq' : NoneCallsOff exec fs := fun g hg => hq g (List.mem_cons_of_mem _ hg)
    simp only [continueWith, hr, hoff, Bool.or_self, List.map_cons, List.any_cons,
      reportedCount_cons]
    by_cases hend : o.endsAt (verdict o exec f) = true
    · -- The run ends here, and the fixtures behind this one are not run.
      have hend' := hend
      unfold RunOptions.endsAt at hend'
      rw [if_pos hend', if_pos hend]
      simp [hend]
    · have hend' := hend
      unfold RunOptions.endsAt at hend'
      rw [if_neg hend', if_neg hend]
      simp only [hend, Bool.false_or, ih hq', List.take_succ_cons, List.foldl_cons,
        List.length_cons]
      split
      · congr 1
        omega
      · rfl

/-- The totals of a whole run. -/
theorem all_summary {set : FixtureSet} (hq : NoneCallsOff exec set.fixtures) :
    (all o exec false set).summary =
      let vs := set.fixtures.map (verdict o exec)
      let s := (vs.take (reportedCount o vs)).foldl Summary.add (begin o set.size)
      if vs.any o.endsAt then
        { s with aborted := true, notRun := (set.size : Int) - reportedCount o vs }
      else s :=
  continueWith_summary hq _

theorem all_results {set : FixtureSet} (hq : NoneCallsOff exec set.fixtures) :
    (all o exec false set).summary.results =
      (set.fixtures.map (verdict o exec)).take
        (reportedCount o (set.fixtures.map (verdict o exec))) := by
  rw [all_summary hq]
  simp only
  split <;> simp [begin]

/-- A run is cut short iff it is strict and a verdict is a failure. -/
theorem all_aborted_iff {set : FixtureSet} (hq : NoneCallsOff exec set.fixtures) :
    (all o exec false set).summary.aborted = true ↔
      o.isStrict = true ∧
        ∃ r ∈ set.fixtures.map (verdict o exec), r.isFailure o.incomplete = true := by
  have hends : (set.fixtures.map (verdict o exec)).any o.endsAt = true ↔
      o.isStrict = true ∧
        ∃ r ∈ set.fixtures.map (verdict o exec), r.isFailure o.incomplete = true := by
    simp only [List.any_eq_true, RunOptions.endsAt, Bool.and_eq_true]
    exact ⟨fun ⟨r, hr, hs, hf⟩ => ⟨hs, r, hr, hf⟩, fun ⟨hs, r, hr, hf⟩ => ⟨r, hr, hs, hf⟩⟩
  rw [← hends, all_summary hq]
  simp only
  split
  · rename_i hany
    simp [hany]
  · rename_i hany
    simp only [Summary.foldl_add_aborted]
    simp [begin, hany]

theorem all_notRun {set : FixtureSet} (hq : NoneCallsOff exec set.fixtures) :
    (all o exec false set).summary.notRun
      = (set.size : Int) - reportedCount o (set.fixtures.map (verdict o exec)) := by
  rw [all_summary hq]
  simp only
  split
  · rfl
  · rename_i hany
    have hall : ∀ r ∈ set.fixtures.map (verdict o exec), o.endsAt r = false := by
      simpa using hany
    rw [reportedCount_eq_length hall, Summary.foldl_add_notRun, List.length_map]
    show (0 : Int) = (set.fixtures.length : Int) - set.fixtures.length
    omega

theorem exitCode_eq_success_iff (r : Run) : r.exitCode = .success ↔ r.summary.ok = true := by
  unfold exitCode
  cases r.summary.ok <;> simp

theorem begin_counted (o : RunOptions) (n : Nat) : (begin o n).Counted := by
  constructor <;> rfl

/-- A run is successful iff no verdict is a failure, whether or not it is reported. -/
theorem all_ok_iff {set : FixtureSet} (hq : NoneCallsOff exec set.fixtures) :
    (all o exec false set).summary.ok = true
      ↔ ∀ f ∈ set.fixtures, (verdict o exec f).isFailure o.incomplete = false := by
  have hc := (begin_counted o set.size).foldl ((set.fixtures.map (verdict o exec)).take
    (reportedCount o (set.fixtures.map (verdict o exec))))
  have hok := hc.ok_iff
  rw [Summary.foldl_add_results, Summary.foldl_add_policy] at hok
  have hall : (all o exec false set).summary.ok
      = (((set.fixtures.map (verdict o exec)).take
          (reportedCount o (set.fixtures.map (verdict o exec)))).foldl Summary.add
            (begin o set.size)).ok := by
    rw [all_summary hq]
    simp only
    split <;> rfl
  rw [hall, hok]
  simp only [begin, List.nil_append]
  rw [forall_take_reportedCount, List.forall_mem_map]

end Run

end Golden
