import Golden.Proofs.Run.Accounting
import Golden.Proofs.Run.Ordering

/-!
# A run that is called off before it starts

A worker that waits may see that the run is called off, or may take a free slot all the same, and each
worker does so for itself. Neither way leads to an interpreter: with a slot, an incomplete fixture is
refused and a complete one is skipped. So nothing is started, and nothing is reported but incomplete
fixtures (`calledOffRun_startsNothing`).

The invariant of the side-by-side run is `Pool.Idle`. What it says of the results taken is
`Result.Unstarted`, and everything about the totals and the output follows from that (`Summary.idle`).
-/

namespace Golden

/-- The result of a fixture whose interpreter was not started because the run was called off. An
incomplete fixture may be skipped or be found incomplete. -/
def Result.Unstarted (r : Result) : Prop :=
  r = .skipped r.fixture ∨ r.fixture.isComplete = false ∧ r = .incomplete r.fixture

theorem Result.Unstarted.status {r : Result} (h : r.Unstarted) :
    r.status = .notRun ∨ r.status = .incomplete ∧ r.fixture.isComplete = false := by
  rcases h with h | ⟨hincomplete, h⟩
  · left
    rw [h]
    rfl
  · right
    refine ⟨?_, hincomplete⟩
    rw [h]
    rfl

theorem Result.skipped_unstarted (f : Fixture) : (Result.skipped f).Unstarted := Or.inl rfl

theorem Result.incomplete_unstarted {f : Fixture} (hf : f.isComplete = false) :
    (Result.incomplete f).Unstarted := Or.inr ⟨hf, rfl⟩

/-! ## Totals and output -/

/-- The totals and the output of a run in which no interpreter was started. -/
structure Summary.Idle (o : RunOptions) (c : Console) (set : FixtureSet) (s : Summary)
    (printed : Output) : Prop where
  results : ∀ r ∈ s.results,
    r.status = .notRun ∨ r.status = .incomplete ∧ r.fixture.isComplete = false
  /-- The results are in the order of the fixtures. -/
  inOrder : s.results.map Result.fixture <+: set.fixtures
  passed : s.passed = 0
  failed : s.failed = 0
  errored : s.errored = 0
  /-- Only incomplete fixtures are reported on. -/
  printed : printed =
    .concat ((s.results.filter (·.status = .incomplete)).map (Result.report c o.verbose))
  aborted : s.aborted = true → o.isStrict = true ∧ o.incomplete = Config.failIncomplete ∧
    ∃ before r, s.results = before ++ [r] ∧ r.status = .incomplete

section

variable {o : RunOptions} {c : Console} {set : FixtureSet} {rs : List Result}

theorem countP_eq_zero_of_unstarted (h : ∀ r ∈ rs, r.Unstarted) {status : Status}
    (hnotRun : status ≠ .notRun) (hincomplete : status ≠ .incomplete) :
    rs.countP (·.status = status) = 0 := by
  rw [List.countP_eq_zero]
  intro r hr
  rw [decide_eq_true_eq]
  rcases (h r hr).status with hs | ⟨hs, -⟩
  · rw [hs]
    exact hnotRun.symm
  · rw [hs]
    exact hincomplete.symm

theorem report_eq_nothing {r : Result} (h : r.status = .notRun) (c : Console) (verbose : Bool) :
    r.report c verbose = {} := by
  simp only [Result.report, Result.caseReport?, h]

/-- A fixture that did not run is not reported on. -/
theorem concat_reports (h : ∀ r ∈ rs, r.Unstarted) :
    Output.concat (rs.map (Result.report c o.verbose))
      = .concat ((rs.filter (·.status = .incomplete)).map (Result.report c o.verbose)) := by
  induction rs with
  | nil => rfl
  | cons r rs ih =>
    have hrest := ih fun x hx => h x (List.mem_cons_of_mem _ hx)
    rcases (h r List.mem_cons_self).status with hs | ⟨hs, -⟩
    · rw [List.filter_cons_of_neg (by simp [hs]), List.map_cons, Output.concat_cons,
        report_eq_nothing hs, Output.empty_append, hrest]
    · rw [List.filter_cons_of_pos (by simp [hs]), List.map_cons, List.map_cons, Output.concat_cons,
        Output.concat_cons, hrest]

/-- A result that is no run's can end a run only as an incomplete fixture that must not be. -/
theorem policy_of_endsAt {r : Result} (h : r.Unstarted) (hend : o.endsAt r = true) :
    o.isStrict = true ∧ o.incomplete = Config.failIncomplete ∧ r.status = .incomplete := by
  rw [RunOptions.endsAt, Bool.and_eq_true] at hend
  obtain ⟨hstrict, hfailure⟩ := hend
  rcases h.status with hs | ⟨hs, -⟩
  · simp [Result.isFailure, hs] at hfailure
  · exact ⟨hstrict, by simpa [Result.isFailure, hs] using hfailure, hs⟩

/-- What the results taken say about the totals and the output. -/
theorem Summary.idle {s : Summary} {printed : Output} (hcounted : s.Counted)
    (hresults : ∀ r ∈ s.results, r.Unstarted)
    (hinOrder : s.results.map Result.fixture <+: set.fixtures)
    (hprinted : printed = .concat (s.results.map (Result.report c o.verbose)))
    (hended : s.aborted = true → ∃ before r, s.results = before ++ [r] ∧ o.endsAt r = true) :
    s.Idle o c set printed where
  results := fun r hr => (hresults r hr).status
  inOrder := hinOrder
  passed := hcounted.passed.trans (countP_eq_zero_of_unstarted hresults nofun nofun)
  failed := hcounted.failed.trans (countP_eq_zero_of_unstarted hresults nofun nofun)
  errored := hcounted.errored.trans (countP_eq_zero_of_unstarted hresults nofun nofun)
  printed := hprinted.trans (concat_reports hresults)
  aborted := by
    intro haborted
    obtain ⟨before, r, hlast, hend⟩ := hended haborted
    have hr : r ∈ s.results := by
      rw [hlast]
      exact List.mem_concat_self
    obtain ⟨hstrict, hpolicy, hs⟩ := policy_of_endsAt (hresults r hr) hend
    exact ⟨hstrict, hpolicy, before, r, hlast, hs⟩

end

/-! ## One fixture after the other -/

namespace Run

variable {o : RunOptions} {c : Console} {exec : Fixture → Execution} {set : FixtureSet}

theorem resultOf_unstarted (o : RunOptions) (exec : Fixture → Execution) (f : Fixture) :
    (resultOf o exec true f).Unstarted ∧ (resultOf o exec true f).fixture = f := by
  unfold resultOf
  cases hf : f.isComplete with
  | true => exact ⟨Result.skipped_unstarted f, rfl⟩
  | false =>
    rw [Bool.and_false, if_neg Bool.false_ne_true, verdict_eq_incomplete hf]
    exact ⟨Result.incomplete_unstarted hf, rfl⟩

/-- Going through fixtures in a run that is called off starts none of them. -/
theorem continueWith_off (o : RunOptions) (exec : Fixture → Execution) (s : Summary)
    (fs : List Fixture) :
    (continueWith o exec true s fs).executed = [] ∧
      ∃ rs, (continueWith o exec true s fs).summary.results = s.results ++ rs ∧
        (∀ r ∈ rs, r.Unstarted) ∧ rs.map Result.fixture <+: fs := by
  induction fs generalizing s with
  | nil => exact ⟨rfl, [], by rw [List.append_nil]; rfl, nofun, List.nil_prefix⟩
  | cons f fs ih =>
    obtain ⟨hunstarted, hfixture⟩ := resultOf_unstarted o exec f
    have hstarts : starts true f = false := Bool.and_false _
    simp only [continueWith, hstarts, Bool.false_eq_true, if_false, Bool.false_and, Bool.or_false,
      List.nil_append]
    split
    · refine ⟨rfl, [resultOf o exec true f], Summary.add_results _ _, ?_, ?_⟩
      · rintro r (_ | ⟨_, ⟨⟩⟩)
        exact hunstarted
      · rw [List.map_singleton, hfixture]
        exact List.prefix_append [f] fs
    · obtain ⟨hexecuted, rs, hresults, hrest, hprefix⟩ := ih (s.add (resultOf o exec true f))
      refine ⟨hexecuted, resultOf o exec true f :: rs, ?_, ?_, ?_⟩
      · rw [hresults, Summary.add_results, List.append_assoc, List.singleton_append]
      · exact List.forall_mem_cons.mpr ⟨hunstarted, hrest⟩
      · rw [List.map_cons, hfixture]
        exact List.cons_prefix_cons.mpr ⟨rfl, hprefix⟩

theorem all_idle (o : RunOptions) (c : Console) (exec : Fixture → Execution) (set : FixtureSet) :
    (all o exec true set).summary.Idle o c set ((all o exec true set).output c o.verbose) := by
  have hbalanced := all_balanced o exec true set
  obtain ⟨-, rs, hresults, hunstarted, hprefix⟩ :=
    continueWith_off o exec (begin o set.size) set.fixtures
  have hall : (all o exec true set).summary.results = rs := hresults
  refine Summary.idle hbalanced.counted (hall ▸ hunstarted) (hall ▸ hprefix) rfl ?_
  intro haborted
  obtain ⟨before, r, hlast, hfailed⟩ := hbalanced.last haborted
  have hfailure : r ∈ (all o exec true set).summary.failedResults := by
    rw [hfailed]
    exact List.mem_singleton_self r
  have hr := (List.mem_filter.mp hfailure).2
  rw [hbalanced.policy] at hr
  refine ⟨before, r, hlast, ?_⟩
  rw [Summary.endsAt_eq (hbalanced.aborted_iff.mp haborted).1, hr]

end Run

/-! ## Side by side -/

/-- The phase of a worker that starts nothing. -/
def Phase.Idle : Phase → Prop
  | .queued => True
  | .admitted => True
  | .delivered r => r.Unstarted
  | .finished r => r.Unstarted
  | _ => False

theorem Phase.Idle.result? {a : Phase} {r : Result} (h : a.Idle) (hr : a.result? = some r) :
    r.Unstarted := by
  cases a with
  | delivered x | finished x =>
    rw [← Option.some.inj hr]
    exact h
  | _ => cases hr

namespace Pool

variable {o : RunOptions} {c : Console} {slots : Nat} {w : Surroundings} {set : FixtureSet}
  {p q : Pool} {i : Nat} {f : Fixture} {a b : Phase}

/-- What holds all along a run that is called off before its first step. -/
structure Idle (p : Pool) : Prop where
  off : p.cancelled = true
  calls : p.calls = []
  idle : ∀ v ∈ p.workers, v.phase.Idle
  taken : ∀ r ∈ p.reported, r.Unstarted

theorem Idle.start (set : FixtureSet) : Idle (Pool.start set true) where
  off := rfl
  calls := rfl
  idle := by
    intro v hv
    obtain ⟨f, -, rfl⟩ := List.mem_map.mp hv
    trivial
  taken := nofun

/-- A worker goes on. -/
theorem Idle.advance (h : Idle p) (hat : p.At i f a) (hb : a.Idle → b.Idle) : Idle (p.move i b) where
  off := h.off
  calls := h.calls
  idle := by
    intro v hv
    rcases hat.mem_move hv with hv | rfl
    · exact h.idle v hv
    · exact hb (h.idle _ hat.mem)
  taken := h.taken

theorem Idle.next (h : Idle p) {r : Result} (hnext : p.next? = some r) :
    ∀ x ∈ p.reported ++ [r], x.Unstarted := by
  obtain ⟨v, hv, hr⟩ := Option.bind_eq_some_iff.mp hnext
  intro x hx
  rw [List.mem_append, List.mem_singleton] at hx
  rcases hx with hx | rfl
  · exact h.taken x hx
  · exact (h.idle v (List.mem_of_getElem? hv)).result? hr

/-- Every step keeps it: a worker with a slot finds the run called off. -/
theorem Idle.step (h : Idle p) (hs : Step o c slots w p q) : Idle q := by
  -- No interpreter is running, has returned or is being looked at.
  have hnever : ∀ {i f a}, p.At i f a → ¬a.Idle → Idle q := fun hat hnot =>
    absurd (h.idle _ hat.mem) hnot
  cases hs with
  | callOff => exact ⟨rfl, h.calls, h.idle, h.taken⟩
  | @giveUp i f hat => exact h.advance hat fun _ => Result.skipped_unstarted f
  | enter hat => exact h.advance hat fun _ => trivial
  | refuse hat hf => exact h.advance hat fun _ => Result.incomplete_unstarted hf
  | @skip i f hat => exact h.advance hat fun _ => Result.skipped_unstarted f
  | launch _ _ hon => exact absurd (h.off.symm.trans hon) (by decide)
  | @expire i f phase hat =>
    refine h.advance hat fun hphase => ?_
    cases phase with
    | running | returned | looked => exact hphase.elim
    | queued | admitted | delivered | finished => exact hphase
  | comeBack hat | drop hat | goOn hat | timeOut hat | judge hat => exact hnever hat id
  | release hat => exact h.advance hat id
  | report _ hnext => exact ⟨h.off, h.calls, h.idle, h.next hnext⟩
  | abort _ hnext => exact ⟨rfl, h.calls, h.idle, h.next hnext⟩

theorem Idle.of_reaches (hr : Reaches o c slots w (Pool.start set true) p) : Idle p := by
  refine hr.invariant (Idle.start set) ?_
  intro p q h hs
  exact h.step hs

theorem summary_idle (hrun : Reaches o c slots w (Pool.start set true) q) :
    (q.summary o).Idle o c set q.printed := by
  have hidle := Idle.of_reaches hrun
  have horder : InOrder o c set q := .of_reaches hrun
  have htaking : Taking o set q := .of_reaches hrun
  have hcounted := (Run.begin_counted o q.workers.length).after q.workers.length q.reported q.aborted
  have haborted : (q.summary o).aborted = q.aborted := by
    unfold summary
    cases q.aborted with
    | true => rfl
    | false => exact Summary.foldl_add_aborted q.reported _
  refine Summary.idle hcounted ?_ ?_ ?_ ?_
  · rw [summary_results]
    exact hidle.taken
  · rw [summary_results]
    exact horder.taken
  · rw [summary_results]
    exact horder.printed
  · rw [summary_results, haborted]
    intro hq
    obtain ⟨before, r, hreported, -, hend⟩ := htaking.ended hq
    exact ⟨before, r, hreported, hend⟩

end Pool

/-! ## Every run -/

/-- A run that is called off before it starts calls no interpreter, one fixture after the other or side
by side, whatever each worker finds first and whatever the interpreters would do. Its results are of
fixtures that did not run or are incomplete, in the order of the fixtures; only the incomplete ones are
reported on, and only one of them can end the run. -/
theorem calledOffRun_startsNothing (o : RunOptions) (c : Console) (set : FixtureSet) :
    (∀ exec, (Run.all o exec true set).executed = [] ∧
      (Run.all o exec true set).summary.Idle o c set ((Run.all o exec true set).output c o.verbose)) ∧
    (∀ slots w q, Pool.Reaches o c slots w (Pool.start set true) q →
      q.calls = [] ∧ (q.summary o).Idle o c set q.printed) := by
  constructor
  · intro exec
    exact ⟨(Run.continueWith_off o exec _ set.fixtures).1, Run.all_idle o c exec set⟩
  · intro slots w q hrun
    exact ⟨(Pool.Idle.of_reaches hrun).calls, Pool.summary_idle hrun⟩

/-- A fixture that is complete, and two that have no expected output. -/
def halfFinishedSet : FixtureSet :=
  ⟨[{ id := [97], programPath := [97], expectedPath := [97] },
    { id := [98], programPath := [98] },
    { id := [99], programPath := [99] }]⟩

/-- Of two incomplete fixtures, one takes a slot and is refused, which ends a strict run under the policy
`fail`, and the other gives up. The complete one takes a slot too and is skipped. -/
theorem calledOffRun_halfFinishedSet :
    let o : RunOptions := { mode := Config.strict, incomplete := Config.failIncomplete }
    ∃ q, Pool.Reaches o {} 2 (.steady fun _ => {}) (Pool.start halfFinishedSet true) q ∧
      q.isOver = true ∧ q.calls = [] ∧ (q.summary o).aborted = true ∧ (q.summary o).notRun = 1 ∧
      (q.summary o).Idle o {} halfFinishedSet q.printed := by
  intro o
  have hrun : Pool.Reaches o {} 2 (.steady fun _ => {}) (Pool.start halfFinishedSet true)
      (Pool.start halfFinishedSet true) := .refl _
  have hrun := hrun.tail (.enter (i := 0) rfl (by decide))
  have hrun := hrun.tail (.enter (i := 1) rfl (by decide))
  have hrun := hrun.tail (.giveUp (i := 2) rfl rfl)
  have hrun := hrun.tail (.refuse (i := 1) rfl rfl)
  have hrun := hrun.tail (.skip (i := 0) rfl rfl rfl)
  have hrun := hrun.tail (.report rfl rfl (by decide))
  have hrun := hrun.tail (.abort rfl rfl (by decide))
  have hrun := hrun.tail (.release (i := 0) rfl)
  have hrun := hrun.tail (.release (i := 1) rfl)
  obtain ⟨hcalls, hidle⟩ := (calledOffRun_startsNothing o {} halfFinishedSet).2 _ _ _ hrun
  exact ⟨_, hrun, rfl, hcalls, rfl, rfl, hidle⟩

end Golden
