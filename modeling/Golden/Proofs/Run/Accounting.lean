import Golden.Proofs.Run.Closing
import Golden.Proofs.Run.Schedule

/-!
# Summaries add up

The totals of a run say the same thing several times over: in counters, in a list of results, in a flag
and in the number of fixtures left out. `Summary.Balanced` says how these go together. It holds of every
run, one fixture after the other or side by side, with any interpreters, and whoever calls it off and
when (`run_balanced`). Where nobody calls the run off, what the summary says at its end is true as well.

A summary depends on the run through the results that were taken and on whether the last of them ended
the run, so all that is asked of a run is `Stops`: which results it may stop behind.
-/

namespace Golden

/-! ## Summaries of taken results -/

namespace Summary

@[simp] theorem add_total (s : Summary) (r : Result) : (s.add r).total = s.total := by
  unfold add
  cases r.status <;> rfl

@[simp] theorem foldl_add_total (rs : List Result) (s : Summary) :
    (rs.foldl add s).total = s.total := by
  induction rs generalizing s with
  | nil => rfl
  | cons r rs ih => simp [ih]

/-- The summary when, of so many fixtures to come, these results have been taken. -/
def after (s : Summary) (remaining : Nat) (rs : List Result) (aborted : Bool) : Summary :=
  let s := rs.foldl add s
  if aborted then { s with aborted := true, notRun := (remaining : Int) - rs.length } else s

variable {o : RunOptions} {size : Nat} {rs : List Result} {aborted : Bool} {s : Summary}

theorem after_results (s : Summary) (remaining : Nat) (rs : List Result) (aborted : Bool) :
    (s.after remaining rs aborted).results = s.results ++ rs := by
  cases aborted <;> exact foldl_add_results rs s

theorem after_policy (s : Summary) (remaining : Nat) (rs : List Result) (aborted : Bool) :
    (s.after remaining rs aborted).policy = s.policy := by
  cases aborted <;> exact foldl_add_policy rs s

theorem after_total (s : Summary) (remaining : Nat) (rs : List Result) (aborted : Bool) :
    (s.after remaining rs aborted).total = s.total := by
  cases aborted <;> exact foldl_add_total rs s

theorem Counted.after (h : s.Counted) (remaining : Nat) (rs : List Result) (aborted : Bool) :
    (s.after remaining rs aborted).Counted := by
  obtain ⟨hpassed, hfailed, herrored, hincomplete⟩ := h.foldl rs
  cases aborted <;> exact ⟨hpassed, hfailed, herrored, hincomplete⟩

/-- The totals of a run over so many fixtures go together. -/
structure Balanced (o : RunOptions) (size : Nat) (s : Summary) : Prop where
  policy : s.policy = o.incomplete
  total : s.total = size
  sum : (s.results.length : Int) + s.notRun = s.total
  counted : s.Counted
  ok_iff : s.ok = true ↔ s.failedResults = []
  aborted_iff : s.aborted = true ↔ o.isStrict = true ∧ s.failedResults ≠ []
  /-- The run is aborted behind its only failure. -/
  last : s.aborted = true → ∃ before r, s.results = before ++ [r] ∧ s.failedResults = [r]
  notRun_nonneg : 0 ≤ s.notRun
  notRun_pos : 0 < s.notRun → s.aborted = true

/-- A run over so many fixtures may stop behind these results: behind all, if none of them ends it, or
behind the first that does. -/
structure Stops (o : RunOptions) (size : Nat) (rs : List Result) (aborted : Bool) : Prop where
  within : rs.length ≤ size
  whole : aborted = false → rs.length = size
  going : aborted = false → ∀ r ∈ rs, o.endsAt r = false
  ended : aborted = true →
    ∃ before r, rs = before ++ [r] ∧ (∀ x ∈ before, o.endsAt x = false) ∧ o.endsAt r = true

theorem Stops.nil (o : RunOptions) : Stops o 0 [] false where
  within := Nat.le_refl 0
  whole := fun _ => rfl
  going := fun _ _ hr => absurd hr List.not_mem_nil
  ended := nofun

theorem Stops.last {r : Result} (hr : o.endsAt r = true) (size : Nat) :
    Stops o (size + 1) [r] true where
  within := by
    rw [List.length_singleton]
    omega
  whole := nofun
  going := nofun
  ended := fun _ => ⟨[], r, rfl, fun x hx => absurd hx List.not_mem_nil, hr⟩

theorem Stops.cons {r : Result} (hr : o.endsAt r = false) (h : Stops o size rs aborted) :
    Stops o (size + 1) (r :: rs) aborted where
  within := Nat.succ_le_succ h.within
  whole := fun haborted => congrArg Nat.succ (h.whole haborted)
  going := fun haborted => List.forall_mem_cons.mpr ⟨hr, h.going haborted⟩
  ended := by
    intro haborted
    obtain ⟨before, last, rfl, hbefore, hlast⟩ := h.ended haborted
    exact ⟨r :: before, last, rfl, List.forall_mem_cons.mpr ⟨hr, hbefore⟩, hlast⟩

theorem after_cons (s : Summary) (remaining : Nat) (r : Result) (rs : List Result) (aborted : Bool) :
    s.after (remaining + 1) (r :: rs) aborted = (s.add r).after remaining rs aborted := by
  unfold after
  rw [List.foldl_cons, List.length_cons]
  have hleft : ((remaining + 1 : Nat) : Int) - (rs.length + 1 : Nat) = remaining - rs.length := by
    omega
  rw [hleft]

theorem endsAt_eq (hstrict : o.isStrict = true) (r : Result) :
    o.endsAt r = r.isFailure o.incomplete := by
  rw [RunOptions.endsAt, hstrict, Bool.true_and]

theorem filter_isFailure_eq_nil (hstrict : o.isStrict = true) (h : ∀ r ∈ rs, o.endsAt r = false) :
    rs.filter (Result.isFailure o.incomplete) = [] := by
  rw [List.filter_eq_nil_iff]
  intro r hr
  rw [← endsAt_eq hstrict, h r hr]
  exact Bool.false_ne_true

/-- A run that is ended is strict, and only its last result is a failure. -/
theorem Stops.of_aborted (h : Stops o size rs true) :
    o.isStrict = true ∧ ∃ before r, rs = before ++ [r] ∧
      rs.filter (Result.isFailure o.incomplete) = [r] := by
  obtain ⟨before, r, hrs, hbefore, hr⟩ := h.ended rfl
  have hboth := hr
  rw [RunOptions.endsAt, Bool.and_eq_true] at hboth
  obtain ⟨hstrict, hfailure⟩ := hboth
  refine ⟨hstrict, before, r, hrs, ?_⟩
  rw [hrs, List.filter_append, filter_isFailure_eq_nil hstrict hbefore, List.nil_append,
    List.filter_cons_of_pos hfailure, List.filter_nil]

theorem Stops.aborted_iff (h : Stops o size rs aborted) :
    aborted = true ↔ o.isStrict = true ∧ rs.filter (Result.isFailure o.incomplete) ≠ [] := by
  cases aborted with
  | true =>
    obtain ⟨hstrict, before, r, -, hfilter⟩ := h.of_aborted
    rw [hfilter]
    exact iff_of_true rfl ⟨hstrict, List.cons_ne_nil r []⟩
  | false =>
    refine iff_of_false nofun ?_
    rintro ⟨hstrict, hne⟩
    exact hne (filter_isFailure_eq_nil hstrict (h.going rfl))

theorem Stops.notRun_eq (h : Stops o size rs aborted) :
    ((Run.begin o size).after size rs aborted).notRun = (size : Int) - rs.length := by
  cases aborted with
  | true => rfl
  | false =>
    have hzero : ((Run.begin o size).after size rs false).notRun = 0 := foldl_add_notRun rs _
    have hlength := h.whole rfl
    rw [hzero]
    omega

theorem Counted.ok_iff_failedResults (h : s.Counted) : s.ok = true ↔ s.failedResults = [] := by
  rw [h.ok_iff, failedResults, List.filter_eq_nil_iff]
  simp only [Bool.not_eq_true]

/-- Where a run may stop, its totals go together. -/
theorem Stops.balanced (h : Stops o size rs aborted) :
    ((Run.begin o size).after size rs aborted).Balanced o size := by
  have hresults : ((Run.begin o size).after size rs aborted).results = rs := after_results ..
  have hpolicy : ((Run.begin o size).after size rs aborted).policy = o.incomplete := after_policy ..
  have htotal : ((Run.begin o size).after size rs aborted).total = size := after_total ..
  have haborted : ((Run.begin o size).after size rs aborted).aborted = aborted := by
    cases aborted with
    | true => rfl
    | false => exact foldl_add_aborted rs _
  have hfailed : ((Run.begin o size).after size rs aborted).failedResults
      = rs.filter (Result.isFailure o.incomplete) := by
    rw [failedResults, hresults, hpolicy]
  have hcounted := (Run.begin_counted o size).after size rs aborted
  have hwithin := h.within
  constructor
  case policy => exact hpolicy
  case total => exact htotal
  case sum =>
    rw [hresults, h.notRun_eq, htotal]
    omega
  case counted => exact hcounted
  case ok_iff => exact hcounted.ok_iff_failedResults
  case aborted_iff =>
    rw [haborted, hfailed]
    exact h.aborted_iff
  case last =>
    intro htrue
    rw [haborted] at htrue
    subst htrue
    obtain ⟨-, before, r, hrs, hfilter⟩ := h.of_aborted
    exact ⟨before, r, hresults.trans hrs, hfailed.trans hfilter⟩
  case notRun_nonneg =>
    rw [h.notRun_eq]
    omega
  case notRun_pos =>
    rw [h.notRun_eq, haborted]
    intro hpos
    cases aborted with
    | true => rfl
    | false =>
      have hlength := h.whole rfl
      omega

/-! ## What a summary says at its end -/

/-- The last line of the printed summary is true, and goes with the exit code. -/
structure ClosesTruly (c : Console) (elapsed : Duration) (code : ExitCode) (s : Summary) : Prop where
  closes : ∃ x : Closing, EndsWithLine (s.print c elapsed) (x.line c)
  allPassed : ∀ n, EndsWithLine (s.print c elapsed) ((Closing.allPassed n).line c) →
    (n : Int) = s.total
  someFailed : ∀ n total, EndsWithLine (s.print c elapsed) ((Closing.someFailed n total).line c) →
    n = s.failed + s.errored + if s.policy = Config.failIncomplete then s.incomplete else 0
  success_iff : (∃ x : Closing, x.isSuccess = true ∧ EndsWithLine (s.print c elapsed) (x.line c)) ↔
    code = .success

theorem countP_isFailure (policy : Bytes) (rs : List Result) :
    rs.countP (Result.isFailure policy) =
      rs.countP (·.status = .failed) + rs.countP (·.status = .error)
        + if policy = Config.failIncomplete then rs.countP (·.status = .incomplete) else 0 := by
  induction rs with
  | nil => simp
  | cons r rs ih =>
    simp only [List.countP_cons, ih]
    by_cases hpolicy : policy = Config.failIncomplete
    · simp only [if_pos hpolicy]
      cases hstatus : r.status <;> simp [Result.isFailure, hstatus, hpolicy] <;> omega
    · simp only [if_neg hpolicy]
      cases hstatus : r.status <;> simp [Result.isFailure, hstatus, hpolicy] <;> omega

theorem Counted.failedResults_length (h : s.Counted) :
    s.failedResults.length =
      s.failed + s.errored + if s.policy = Config.failIncomplete then s.incomplete else 0 := by
  rw [h.failed, h.errored, h.incomplete, failedResults, ← List.countP_eq_length_filter,
    countP_isFailure]

/-- Results that all ran and none of which is a failure or incomplete have all passed. -/
theorem Counted.passed_eq_length (h : s.Counted) (hok : s.ok = true) (hincomplete : s.incomplete = 0)
    (hran : ∀ r ∈ s.results, r.status ≠ .notRun) : s.passed = s.results.length := by
  rw [h.passed, List.countP_eq_length]
  intro r hr
  have hfine := h.ok_iff.mp hok r hr
  rw [h.incomplete, List.countP_eq_zero] at hincomplete
  have hcomplete := hincomplete r hr
  unfold Result.isFailure at hfine
  cases hstatus : r.status with
  | passed => rfl
  | notRun => exact absurd hstatus (hran r hr)
  | failed | error =>
    rw [hstatus] at hfine
    cases hfine
  | incomplete => exact absurd (by simp [hstatus]) hcomplete

/-- Where every result is of a fixture that ran, a summary whose totals go together closes with the
truth. -/
theorem Balanced.closesTruly (h : s.Balanced o size) (hran : ∀ r ∈ s.results, r.status ≠ .notRun)
    {code : ExitCode} (hcode : code = .success ↔ s.ok = true) (c : Console) (elapsed : Duration) :
    s.ClosesTruly c elapsed code := by
  constructor
  case closes => exact ⟨s.closing, s.endsWithLine_print c elapsed⟩
  case allPassed =>
    intro n hline
    have hclosing := endsWithLine_print_iff.mp hline
    unfold closing at hclosing
    split at hclosing
    · rename_i hok
      split at hclosing
      · cases hclosing
      · rename_i hincomplete
        obtain rfl := Closing.allPassed.inj hclosing
        -- Nothing has failed, so the run was not aborted and has left nothing out.
        have hgoing : s.aborted ≠ true := fun haborted =>
          (h.aborted_iff.mp haborted).2 (h.ok_iff.mp hok)
        have hnotRun : ¬0 < s.notRun := fun hpos => hgoing (h.notRun_pos hpos)
        have hpassed := h.counted.passed_eq_length hok (by omega) hran
        have hsum := h.sum
        have hnonneg := h.notRun_nonneg
        omega
    · cases hclosing
  case someFailed =>
    intro n total hline
    have hclosing := endsWithLine_print_iff.mp hline
    unfold closing at hclosing
    split at hclosing
    · split at hclosing <;> cases hclosing
    · obtain ⟨rfl, -⟩ := Closing.someFailed.inj hclosing
      exact h.counted.failedResults_length
  case success_iff =>
    rw [hcode]
    constructor
    · rintro ⟨x, hx, hline⟩
      obtain rfl := endsWithLine_print_iff.mp hline
      unfold closing at hx
      split at hx
      · assumption
      · cases hx
    · intro hok
      refine ⟨s.closing, ?_, s.endsWithLine_print c elapsed⟩
      rw [closing, if_pos hok]
      split <;> rfl

end Summary

/-! ## One fixture after the other -/

section Verdict

variable {o : RunOptions} {exec : Fixture → Execution} {f : Fixture}

theorem judged_status_ne_notRun (f : Fixture) (e : Execution) :
    (Result.judged f e).status ≠ .notRun := by
  unfold Result.judged
  split
  · nofun
  · unfold Result.compared
    dsimp only
    split <;> nofun

theorem verdict_status_ne_notRun (h : f.isComplete = true → (exec f).Settled o.timeout) :
    (verdict o exec f).status ≠ .notRun := by
  cases hcomplete : f.isComplete with
  | false =>
    rw [verdict_eq_incomplete hcomplete]
    nofun
  | true =>
    have hsettled := h hcomplete
    unfold Execution.Settled at hsettled
    cases hending : (exec f).ending with
    | exited | failed =>
      rw [verdict_eq_judged hcomplete (by rw [hending]; nofun) (by rw [hending]; nofun)]
      exact judged_status_ne_notRun f (exec f)
    | waited =>
      rw [hending] at hsettled
      rw [verdict_eq_timedOut hcomplete hending hsettled]
      nofun
    | calledOff =>
      rw [hending] at hsettled
      exact hsettled.elim

end Verdict

namespace Run

variable {o : RunOptions} {exec : Fixture → Execution}

/-- A run through fixtures takes results up to one behind which it may stop. -/
theorem continueWith_stops (o : RunOptions) (exec : Fixture → Execution) (cancelled : Bool)
    (s : Summary) (fs : List Fixture) :
    ∃ rs aborted, (continueWith o exec cancelled s fs).summary = s.after fs.length rs aborted ∧
      Summary.Stops o fs.length rs aborted := by
  induction fs generalizing cancelled s with
  | nil => exact ⟨[], false, rfl, .nil o⟩
  | cons f fs ih =>
    cases hend : o.endsAt (resultOf o exec cancelled f) with
    | true =>
      refine ⟨[resultOf o exec cancelled f], true, ?_, .last hend fs.length⟩
      have hstop := hend
      unfold RunOptions.endsAt at hstop
      rw [List.length_cons, Summary.after_cons]
      simp only [continueWith, if_pos hstop]
      simp [Summary.after]
    | false =>
      obtain ⟨rs, aborted, hsummary, hstops⟩ :=
        ih (cancelled || (starts cancelled f && callsOff exec f))
          (s.add (resultOf o exec cancelled f))
      refine ⟨resultOf o exec cancelled f :: rs, aborted, ?_, hstops.cons hend⟩
      have hgo := hend
      unfold RunOptions.endsAt at hgo
      rw [List.length_cons, Summary.after_cons, ← hsummary]
      simp only [continueWith, hgo, Bool.false_eq_true, if_false]

/-- The totals of a run go together, whatever the interpreters do and whenever it is called off. -/
theorem all_balanced (o : RunOptions) (exec : Fixture → Execution) (cancelled : Bool)
    (set : FixtureSet) : (all o exec cancelled set).summary.Balanced o set.size := by
  obtain ⟨rs, aborted, hsummary, hstops⟩ :=
    continueWith_stops o exec cancelled (begin o set.size) set.fixtures
  rw [all, hsummary]
  exact hstops.balanced

/-- In a run that nobody calls off every result is of a fixture that ran. -/
theorem all_results_ran {set : FixtureSet}
    (hsettled : ∀ f ∈ set.fixtures, f.isComplete = true → (exec f).Settled o.timeout) :
    ∀ r ∈ (all o exec false set).summary.results, r.status ≠ .notRun := by
  have hnone : NoneCallsOff exec set.fixtures := by
    intro f hf hcomplete hoff
    have hf := hsettled f hf hcomplete
    rw [Execution.Settled, hoff] at hf
    exact hf
  rw [all_results hnone]
  intro r hr
  obtain ⟨f, hf, rfl⟩ := List.mem_map.mp (List.mem_of_mem_take hr)
  exact verdict_status_ne_notRun (hsettled f hf)

end Run

/-! ## Side by side -/

namespace Pool

variable {o : RunOptions} {c : Console} {slots : Nat} {w : Surroundings} {set : FixtureSet}
  {p q : Pool}

theorem move_length (p : Pool) (i : Nat) (b : Phase) :
    (p.move i b).workers.length = p.workers.length :=
  List.length_modify ..

/-- What a step can do to the results that have been taken: nothing, or the reporter takes the next
one. -/
theorem Step.reported_cases (hs : Step o c slots w p q) :
    q.workers.length = p.workers.length ∧
      (q.reported = p.reported ∧ q.aborted = p.aborted ∨
        ∃ r, p.aborted = false ∧ p.next? = some r ∧ q.reported = p.reported ++ [r] ∧
          q.aborted = o.endsAt r) := by
  cases hs with
  | callOff => exact ⟨rfl, Or.inl ⟨rfl, rfl⟩⟩
  | report hgoing hnext hfine => exact ⟨rfl, Or.inr ⟨_, hgoing, hnext, rfl, hgoing.trans hfine.symm⟩⟩
  | abort hgoing hnext hbad => exact ⟨rfl, Or.inr ⟨_, hgoing, hnext, rfl, hbad.symm⟩⟩
  | giveUp | enter | refuse | skip | launch | expire | comeBack | drop | goOn | timeOut | judge
  | release => exact ⟨move_length .., Or.inl ⟨rfl, rfl⟩⟩

/-- How far the reporter has come, in any surroundings. -/
structure Taking (o : RunOptions) (set : FixtureSet) (p : Pool) : Prop where
  size : p.workers.length = set.size
  within : p.reported.length ≤ p.workers.length
  going : p.aborted = false → ∀ r ∈ p.reported, o.endsAt r = false
  ended : p.aborted = true → ∃ before r, p.reported = before ++ [r] ∧
    (∀ x ∈ before, o.endsAt x = false) ∧ o.endsAt r = true

theorem Taking.start (o : RunOptions) (set : FixtureSet) (cancelled : Bool) :
    Taking o set (Pool.start set cancelled) where
  size := List.length_map ..
  within := Nat.zero_le _
  going := fun _ _ hr => absurd hr List.not_mem_nil
  ended := nofun

/-- Whatever happens, every step keeps it. -/
theorem Taking.step (h : Taking o set p) (hs : Step o c slots w p q) : Taking o set q := by
  obtain ⟨hlength, ⟨hreported, haborted⟩ | ⟨r, hgoing, hnext, hreported, haborted⟩⟩ :=
    hs.reported_cases
  · exact {
      size := hlength.trans h.size
      within := by rw [hreported, hlength]; exact h.within
      going := by rw [hreported, haborted]; exact h.going
      ended := by rw [hreported, haborted]; exact h.ended }
  · -- There is a worker whose result is taken, so not all have been taken before.
    obtain ⟨v, hv, -⟩ := Option.bind_eq_some_iff.mp hnext
    obtain ⟨hlt, -⟩ := List.getElem?_eq_some_iff.mp hv
    constructor
    case size => exact hlength.trans h.size
    case within =>
      rw [hreported, hlength, List.length_append, List.length_singleton]
      exact hlt
    case going =>
      intro hq x hx
      rw [hreported, List.mem_append, List.mem_singleton] at hx
      rcases hx with hx | rfl
      · exact h.going hgoing x hx
      · exact haborted.symm.trans hq
    case ended =>
      intro hq
      exact ⟨p.reported, r, hreported, h.going hgoing, haborted.symm.trans hq⟩

theorem Taking.of_reaches {cancelled : Bool}
    (hr : Reaches o c slots w (Pool.start set cancelled) p) : Taking o set p := by
  refine hr.invariant (Taking.start o set cancelled) ?_
  intro p q h hs
  exact h.step hs

/-- A run that has ended has stopped where it may. -/
theorem Taking.stops (h : Taking o set p) (hover : p.isOver = true) :
    Summary.Stops o set.size p.reported p.aborted where
  within := h.size ▸ h.within
  whole := by
    intro haborted
    rcases (isOver_iff.mp hover).2 with htrue | hlength
    · rw [haborted] at htrue
      cases htrue
    · exact hlength.trans h.size
  going := h.going
  ended := h.ended

theorem summary_eq_after (o : RunOptions) (p : Pool) :
    p.summary o = (Run.begin o p.workers.length).after p.workers.length p.reported p.aborted := rfl

theorem summary_balanced {cancelled : Bool} (hrun : Reaches o c slots w (Pool.start set cancelled) q)
    (hover : q.isOver = true) : (q.summary o).Balanced o set.size := by
  have h : Taking o set q := .of_reaches hrun
  rw [summary_eq_after, h.size]
  exact (h.stops hover).balanced

/-! ## Nobody calls the run off -/

/-- In a run that only the reporter can call off: until it does, no worker has anything to deliver but
the result of a fixture that ran, and so it has taken nothing else. -/
structure Undisturbed (p : Pool) : Prop where
  off : p.cancelled = p.aborted
  deliver : p.cancelled = false → ∀ v ∈ p.workers, ∀ r, v.phase.result? = some r → r.status ≠ .notRun
  taken : ∀ r ∈ p.reported, r.status ≠ .notRun

theorem Undisturbed.start (set : FixtureSet) : Undisturbed (Pool.start set false) where
  off := rfl
  deliver := by
    intro _ v hv r hr
    obtain ⟨f, -, rfl⟩ := List.mem_map.mp hv
    cases hr
  taken := fun _ hr => absurd hr List.not_mem_nil

/-- A worker goes on. -/
theorem Undisturbed.advance {i : Nat} {f : Fixture} {a b : Phase} (h : Undisturbed p)
    (hat : p.At i f a)
    (hb : p.cancelled = false → ∀ r, b.result? = some r → a.result? = some r ∨ r.status ≠ .notRun) :
    Undisturbed (p.move i b) where
  off := h.off
  deliver := by
    intro hon v hv r hr
    rcases hat.mem_move hv with hv | rfl
    · exact h.deliver hon v hv r hr
    · rcases hb hon r hr with hr | hran
      · exact h.deliver hon _ hat.mem r hr
      · exact hran
  taken := h.taken

/-- The result that is taken next is of a fixture that ran. -/
theorem Undisturbed.next_ran (h : Undisturbed p) (hgoing : p.aborted = false) {r : Result}
    (hnext : p.next? = some r) : ∀ x ∈ p.reported ++ [r], x.status ≠ .notRun := by
  obtain ⟨v, hv, hr⟩ := Option.bind_eq_some_iff.mp hnext
  intro x hx
  rw [List.mem_append, List.mem_singleton] at hx
  rcases hx with hx | rfl
  · exact h.taken x hx
  · exact h.deliver (h.off.trans hgoing) v (List.mem_of_getElem? hv) x hr

theorem Undisturbed.step (hnone : ¬w.mayCallOff) (h : Undisturbed p) (hs : Step o c slots w p q) :
    Undisturbed q := by
  -- A worker that sees the run called off may have anything to deliver.
  have hoff : ∀ {P : Prop}, p.cancelled = true → p.cancelled = false → P := by
    intro P hoff hon
    rw [hoff] at hon
    cases hon
  cases hs with
  | callOff may => exact absurd may hnone
  | giveUp hat hc | skip hat _ hc | drop hat hc => exact h.advance hat (hoff hc)
  | enter hat | comeBack hat | goOn hat => exact h.advance hat fun _ _ hr => nomatch hr
  | launch hat =>
    have hmoved := h.advance (b := .running false) hat fun _ _ hr => nomatch hr
    exact ⟨hmoved.off, hmoved.deliver, hmoved.taken⟩
  | refuse hat | timeOut hat =>
    refine h.advance hat fun _ r hr => Or.inr ?_
    obtain rfl := Option.some.inj hr
    nofun
  | @judge i f late e hat =>
    refine h.advance hat fun _ r hr => Or.inr ?_
    obtain rfl := Option.some.inj hr
    exact judged_status_ne_notRun f e
  | @expire i f phase hat =>
    refine h.advance hat fun _ r hr => Or.inl ?_
    rw [← hr]
    cases phase <;> rfl
  | release hat => exact h.advance hat fun _ _ hr => Or.inl hr
  | report hgoing hnext => exact ⟨h.off, h.deliver, h.next_ran hgoing hnext⟩
  | abort hgoing hnext => exact ⟨rfl, fun hon => (nomatch hon), h.next_ran hgoing hnext⟩

theorem Undisturbed.of_reaches (hnone : ¬w.mayCallOff)
    (hr : Reaches o c slots w (Pool.start set false) p) : Undisturbed p := by
  refine hr.invariant (Undisturbed.start set) ?_
  intro p q h hs
  exact h.step hnone hs

theorem summary_results (o : RunOptions) (p : Pool) : (p.summary o).results = p.reported :=
  Summary.after_results ..

end Pool

/-! ## Every run -/

/-- The totals of every run go together, one fixture after the other or side by side, whatever the
interpreters do and whenever the run is called off. Where it is not called off from outside, the summary
closes with the truth. For a run in order this means that every interpreter is settled: one that waits
without a limit comes back only when the run is called off. -/
theorem run_balanced (o : RunOptions) (c : Console) (elapsed : Duration) (set : FixtureSet) :
    (∀ exec cancelled,
      (Run.all o exec cancelled set).summary.Balanced o set.size ∧
      (cancelled = false →
        (∀ f ∈ set.fixtures, f.isComplete = true → (exec f).Settled o.timeout) →
        (Run.all o exec cancelled set).summary.ClosesTruly c elapsed
          (Run.all o exec cancelled set).exitCode)) ∧
    (∀ slots w cancelled q, Pool.Reaches o c slots w (Pool.start set cancelled) q →
      q.isOver = true →
      (q.summary o).Balanced o set.size ∧
      (cancelled = false → ¬w.mayCallOff →
        (q.summary o).ClosesTruly c elapsed (Run.exitCode { summary := q.summary o }))) := by
  constructor
  · intro exec cancelled
    have hbalanced := Run.all_balanced o exec cancelled set
    refine ⟨hbalanced, ?_⟩
    rintro rfl hsettled
    exact hbalanced.closesTruly (Run.all_results_ran hsettled) (Run.exitCode_eq_success_iff _) c
      elapsed
  · intro slots w cancelled q hrun hover
    have hbalanced := Pool.summary_balanced hrun hover
    refine ⟨hbalanced, ?_⟩
    rintro rfl hnone
    refine hbalanced.closesTruly ?_ (Run.exitCode_eq_success_iff _) c elapsed
    rw [Pool.summary_results]
    exact (Pool.Undisturbed.of_reaches hnone hrun).taken

/-- A strict run of two fixtures, the first of which fails: in order, and side by side in one slot, where
the failure keeps the second from being started. When the caller calls the run off instead, before
anything is started, nothing is left out of the results. -/
theorem run_balanced_twoFixtures :
    let o : RunOptions := { mode := Config.strict }
    let inOrder := Run.all o Pool.writesTwo false Pool.twoFixtures
    let calledOff : Surroundings := { Surroundings.steady Pool.writesTwo with mayCallOff := True }
    inOrder.summary.Balanced o 2 ∧ inOrder.summary.ClosesTruly {} ⟨0⟩ .failure ∧
    (∃ q, Pool.Reaches o {} 1 (.steady Pool.writesTwo) (Pool.start Pool.twoFixtures false) q ∧
      q.isOver = true ∧ (q.summary o).notRun = 1 ∧ (q.summary o).Balanced o 2 ∧
      (q.summary o).ClosesTruly {} ⟨0⟩ .failure) ∧
    (∃ q, Pool.Reaches o {} 1 calledOff (Pool.start Pool.twoFixtures false) q ∧
      q.isOver = true ∧ (q.summary o).notRun = 0 ∧ (q.summary o).Balanced o 2) := by
  intro o inOrder calledOff
  obtain ⟨hall, hpool⟩ := run_balanced o {} ⟨0⟩ Pool.twoFixtures
  obtain ⟨hbalanced, hcloses⟩ := hall Pool.writesTwo false
  have hclosed := hcloses rfl fun _ _ _ => trivial
  refine ⟨hbalanced, hclosed, ?_, ?_⟩
  · have hrun : Pool.Reaches o {} 1 (.steady Pool.writesTwo) (Pool.start Pool.twoFixtures false)
        (Pool.start Pool.twoFixtures false) := .refl _
    have hrun := hrun.tail (.enter (i := 0) rfl (by decide))
    have hrun := hrun.tail (.launch (i := 0) rfl rfl rfl)
    have hrun := hrun.tail (.comeBack (i := 0) rfl (Or.inr ⟨rfl, nofun⟩))
    have hrun := hrun.tail (.goOn (i := 0) rfl rfl)
    have hrun := hrun.tail (.judge (i := 0) rfl rfl)
    have hrun := hrun.tail (.abort rfl rfl (by decide))
    have hrun := hrun.tail (.giveUp (i := 1) rfl rfl)
    have hrun := hrun.tail (.release (i := 0) rfl)
    obtain ⟨hbalanced, hcloses⟩ := hpool _ _ _ _ hrun rfl
    exact ⟨_, hrun, rfl, rfl, hbalanced, hcloses rfl id⟩
  · have hrun : Pool.Reaches o {} 1 calledOff (Pool.start Pool.twoFixtures false)
        (Pool.start Pool.twoFixtures false) := .refl _
    have hrun := hrun.tail (.callOff _ trivial)
    have hrun := hrun.tail (.giveUp (i := 0) rfl rfl)
    have hrun := hrun.tail (.giveUp (i := 1) rfl rfl)
    have hrun := hrun.tail (.report rfl rfl (by decide))
    have hrun := hrun.tail (.report rfl rfl (by decide))
    obtain ⟨hbalanced, -⟩ := hpool _ _ _ _ hrun rfl
    exact ⟨_, hrun, rfl, rfl, hbalanced⟩

end Golden
