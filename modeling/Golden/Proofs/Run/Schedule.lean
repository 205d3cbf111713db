import Golden.Proofs.Run.Totals
import Golden.Run.Pool

/-!
# Every schedule leads to the same run

A pool of workers may be interleaved in any way, and a strict run calls off the very workers whose
results it is waiting for. Neither shows: where the outcome of each interpreter is fixed
(`Surroundings.steady`), every run that ends has reported the verdicts in the order of the fixtures, up
to the failure that ends a strict run.

The invariant is `Pool.Steady`. While the run goes on, a worker that has something to deliver delivers
the verdict on its own fixture (`Phase.Sound`); once the run is called off nothing is known of the
workers any more, but by then the reporter has stopped taking results.
-/

namespace Golden

/-- Surroundings in which nobody calls the run off, and every interpreter does what `exec` says: it
comes back in time, or it waits and comes back only when its time limit is over. An interpreter that
is stopped because the reporter has ended the run may come back with anything. -/
def Surroundings.steady (exec : Fixture → Execution) : Surroundings where
  mayCallOff := False
  mayExpire f := (exec f).ending = .waited
  mayReturn f off late e := off = true ∨ e = exec f ∧ (e.ending = .waited → late = true)

/-! ## Moving one worker -/

namespace Pool

theorem move_calls (p : Pool) (i : Nat) (b : Phase) : (p.move i b).calls = p.calls := rfl

/-- A move changes one worker in place. -/
theorem At.split {p : Pool} {i : Nat} {f : Fixture} {a : Phase} (h : p.At i f a) :
    ∃ before after, p.workers = before ++ ⟨f, a⟩ :: after ∧
      ∀ b, (p.move i b).workers = before ++ ⟨f, b⟩ :: after := by
  obtain ⟨hi, hw⟩ := List.getElem?_eq_some_iff.mp h
  refine ⟨p.workers.take i, p.workers.drop (i + 1), ?_, ?_⟩
  · rw [← hw, List.getElem_cons_drop, List.take_append_drop]
  · intro b
    show p.workers.modify i _ = _
    rw [List.modify_eq_take_cons_drop hi, hw]

theorem At.mem {p : Pool} {i : Nat} {f : Fixture} {a : Phase} (h : p.At i f a) :
    ⟨f, a⟩ ∈ p.workers :=
  List.mem_of_getElem? h

theorem At.move_fixtures {p : Pool} {i : Nat} {f : Fixture} {a : Phase} (h : p.At i f a)
    (b : Phase) : (p.move i b).workers.map Worker.fixture = p.workers.map Worker.fixture := by
  obtain ⟨before, after, hp, hq⟩ := h.split
  rw [hp, hq b]
  simp

theorem At.mem_move {p : Pool} {i : Nat} {f : Fixture} {a b : Phase} {v : Worker}
    (h : p.At i f a) (hv : v ∈ (p.move i b).workers) : v ∈ p.workers ∨ v = ⟨f, b⟩ := by
  obtain ⟨before, after, hp, hq⟩ := h.split
  rw [hq b] at hv
  rw [hp]
  rcases List.mem_append.mp hv with hv | hv
  · exact Or.inl (List.mem_append_left _ hv)
  · rcases List.mem_cons.mp hv with hv | hv
    · exact Or.inr hv
    · exact Or.inl (List.mem_append_right _ (List.mem_cons_of_mem _ hv))

/-! ## Runs -/

/-- What every step keeps holds all along a run. -/
theorem Reaches.invariant {o : RunOptions} {c : Console} {slots : Nat} {w : Surroundings} {p q : Pool}
    {P : Pool → Prop} (hr : Reaches o c slots w p q) (hp : P p)
    (hstep : ∀ {p q}, P p → Step o c slots w p q → P q) : P q := by
  induction hr with
  | refl => exact hp
  | tail _ last ih => exact hstep ih last

end Pool

/-! ## What a worker knows -/

/-- The phase of a worker in a run that goes on: what it has seen of its interpreter is what `exec`
says, and what it delivers is the verdict on its own fixture. -/
def Phase.Sound (o : RunOptions) (exec : Fixture → Execution) (f : Fixture) : Phase → Prop
  | .queued => True
  | .admitted => True
  | .running late =>
    f.isComplete = true ∧ (late = true → (exec f).ending = .waited ∧ 0 < o.timeout.ns)
  | .returned e late | .looked e late =>
    f.isComplete = true ∧ e = exec f ∧ (late = true ↔ (exec f).ending = .waited) ∧
      (late = true → 0 < o.timeout.ns)
  | .delivered r | .finished r => r = verdict o exec f

theorem Phase.Sound.expire {o : RunOptions} {exec : Fixture → Execution} {f : Fixture} {a : Phase}
    (h : a.Sound o exec f) (hw : (exec f).ending = .waited) (ht : 0 < o.timeout.ns) :
    a.expire.Sound o exec f := by
  cases a with
  | running late => exact ⟨h.1, fun _ => ⟨hw, ht⟩⟩
  | returned e late => exact ⟨h.1, h.2.1, ⟨fun _ => hw, fun _ => rfl⟩, fun _ => ht⟩
  | looked e late => exact ⟨h.1, h.2.1, ⟨fun _ => hw, fun _ => rfl⟩, fun _ => ht⟩
  | queued => exact h
  | admitted => exact h
  | delivered r => exact h
  | finished r => exact h

theorem Phase.Sound.result? {o : RunOptions} {exec : Fixture → Execution} {f : Fixture} {a : Phase}
    {r : Result} (h : a.Sound o exec f) (hr : a.result? = some r) : r = verdict o exec f := by
  cases a with
  | delivered x => rw [← Option.some.inj hr]; exact h
  | finished x => rw [← Option.some.inj hr]; exact h
  | _ => cases hr

/-- Has the interpreter of the fixture been started, in a run that goes on? -/
def Phase.hasStarted (f : Fixture) : Phase → Bool
  | .queued => false
  | .admitted => false
  | _ => f.isComplete

theorem Phase.hasStarted_expire (f : Fixture) (a : Phase) :
    a.expire.hasStarted f = a.hasStarted f := by
  cases a <;> rfl

namespace Pool

/-- The calls made so far, in the order of the fixtures. -/
def startedCalls (o : RunOptions) (p : Pool) : List Call :=
  (p.workers.filter fun v => v.phase.hasStarted v.fixture).map fun v => .of o v.fixture

theorem At.startedCalls_move {o : RunOptions} {p : Pool} {i : Nat} {f : Fixture} {a b : Phase}
    (h : p.At i f a) (hab : b.hasStarted f = a.hasStarted f) :
    (p.move i b).startedCalls o = p.startedCalls o := by
  obtain ⟨before, after, hp, hq⟩ := h.split
  unfold startedCalls
  rw [hp, hq b]
  simp only [List.filter_append, List.filter_cons, hab]
  split <;> simp

theorem At.startedCalls_start {o : RunOptions} {p : Pool} {i : Nat} {f : Fixture} {a b : Phase}
    (h : p.At i f a) (ha : a.hasStarted f = false) (hb : b.hasStarted f = true) :
    ((p.move i b).startedCalls o).Perm (p.startedCalls o ++ [.of o f]) := by
  obtain ⟨before, after, hp, hq⟩ := h.split
  unfold startedCalls
  rw [hp, hq b]
  simp only [List.filter_append, List.filter_cons, ha, hb, if_true, Bool.false_eq_true, if_false,
    List.map_append, List.map_cons]
  exact List.perm_middle.trans (List.perm_append_singleton _ _).symm

/-! ## The invariant of a steady run -/

/-- What holds all along a run in steady surroundings. -/
structure Steady (o : RunOptions) (c : Console) (exec : Fixture → Execution) (set : FixtureSet)
    (p : Pool) : Prop where
  fixtures : p.workers.map Worker.fixture = set.fixtures
  /-- Only the reporter calls the run off. -/
  off : p.cancelled = p.aborted
  sound : p.cancelled = false → ∀ v ∈ p.workers, v.phase.Sound o exec v.fixture
  calls : p.cancelled = false → p.calls.Perm (p.startedCalls o)
  /-- The reporter has taken verdicts in order. -/
  taken : p.reported <+: set.fixtures.map (verdict o exec)
  going : p.aborted = false → ∀ r ∈ p.reported, o.endsAt r = false
  ended : p.aborted = true →
    ∃ rs r, p.reported = rs ++ [r] ∧ (∀ x ∈ rs, o.endsAt x = false) ∧ o.endsAt r = true
  printed : p.printed = .concat (p.reported.map (Result.report c o.verbose))

variable {o : RunOptions} {c : Console} {slots : Nat} {exec : Fixture → Execution}
  {set : FixtureSet} {p q : Pool} {i : Nat} {f : Fixture} {a b : Phase}

theorem Steady.start : Steady o c exec set (Pool.start set false) where
  fixtures := List.map_map.trans (List.map_id _)
  off := rfl
  sound := by
    intro _ v hv
    obtain ⟨g, -, rfl⟩ := List.mem_map.mp hv
    trivial
  calls := by
    intro _
    have hnone : (Pool.start set false).workers.filter (fun v => v.phase.hasStarted v.fixture) = [] := by
      rw [List.filter_eq_nil_iff]
      intro v hv
      obtain ⟨g, -, rfl⟩ := List.mem_map.mp hv
      simp [Phase.hasStarted]
    unfold startedCalls
    rw [hnone]
    exact List.Perm.refl _
  taken := List.nil_prefix
  going := by intro _ r hr; cases hr
  ended := by intro h; cases h
  printed := rfl

/-- A worker goes on, without starting its interpreter. -/
theorem Steady.advance (h : Steady o c exec set p) (hat : p.At i f a)
    (hb : p.cancelled = false → b.Sound o exec f)
    (hs : p.cancelled = false → b.hasStarted f = a.hasStarted f) :
    Steady o c exec set (p.move i b) where
  fixtures := by rw [hat.move_fixtures]; exact h.fixtures
  off := h.off
  sound := by
    intro hc v hv
    rcases hat.mem_move hv with hv | rfl
    · exact h.sound hc v hv
    · exact hb hc
  calls := by
    intro hc
    rw [move_calls, hat.startedCalls_move (hs hc)]
    exact h.calls hc
  taken := h.taken
  going := h.going
  ended := h.ended
  printed := h.printed

/-- A worker starts its interpreter. -/
theorem Steady.launch (h : Steady o c exec set p) (hat : p.At i f .admitted)
    (hf : f.isComplete = true) :
    Steady o c exec set { p.move i (.running false) with calls := p.calls ++ [.of o f] } where
  fixtures := (hat.move_fixtures _).trans h.fixtures
  off := h.off
  sound := by
    intro hc v hv
    rcases hat.mem_move hv with hv | rfl
    · exact h.sound hc v hv
    · exact ⟨hf, fun hx => by cases hx⟩
  calls := by
    intro hc
    have hstart : ((p.move i (.running false)).startedCalls o).Perm (p.startedCalls o ++ [.of o f]) :=
      hat.startedCalls_start rfl hf
    exact ((h.calls hc).append_right _).trans hstart.symm
  taken := h.taken
  going := h.going
  ended := h.ended
  printed := h.printed

/-- The result that the reporter waits for is the verdict that is next in order. -/
theorem Steady.prefix_next (h : Steady o c exec set p) (ha : p.aborted = false) {r : Result}
    (hn : p.next? = some r) : p.reported ++ [r] <+: set.fixtures.map (verdict o exec) := by
  obtain ⟨v, hv, hr⟩ := Option.bind_eq_some_iff.mp hn
  -- While nothing is aborted nothing is called off either, so the worker delivers its own verdict.
  have hsound := h.sound (h.off.trans ha) v (List.mem_of_getElem? hv)
  have hnext : (set.fixtures.map (verdict o exec))[p.reported.length]? = some r := by
    rw [← h.fixtures, List.map_map, List.getElem?_map, hv, hsound.result? hr]
    rfl
  obtain ⟨hlt, hget⟩ := List.getElem?_eq_some_iff.mp hnext
  rw [List.prefix_iff_eq_take.mp h.taken, ← hget, List.take_append_getElem]
  exact List.take_prefix _ _

theorem Steady.printed_take (h : Steady o c exec set p) (r : Result) :
    (p.take o c r).printed
      = .concat ((p.take o c r).reported.map (Result.report c o.verbose)) := by
  show p.printed ++ _ = _
  rw [h.printed]
  simp [Pool.take, Output.concat_append]

/-- The reporter takes a result that does not end the run. -/
theorem Steady.report (h : Steady o c exec set p) (ha : p.aborted = false) {r : Result}
    (hn : p.next? = some r) (hr : o.endsAt r = false) : Steady o c exec set (p.take o c r) where
  fixtures := h.fixtures
  off := h.off
  sound := h.sound
  calls := h.calls
  taken := h.prefix_next ha hn
  going := by
    intro _ x hx
    rcases List.mem_append.mp hx with hx | hx
    · exact h.going ha x hx
    · rw [List.mem_singleton.mp hx]; exact hr
  ended := by intro h'; exact absurd (ha.symm.trans h') (by simp)
  printed := h.printed_take r

/-- The reporter takes a result that ends the run. -/
theorem Steady.abort (h : Steady o c exec set p) (ha : p.aborted = false) {r : Result}
    (hn : p.next? = some r) (hr : o.endsAt r = true) :
    Steady o c exec set { p.take o c r with aborted := true, cancelled := true } where
  fixtures := h.fixtures
  off := rfl
  sound := by intro h'; cases h'
  calls := by intro h'; cases h'
  taken := h.prefix_next ha hn
  going := by intro h'; cases h'
  ended := fun _ => ⟨p.reported, r, rfl, h.going ha, hr⟩
  printed := h.printed_take r

/-- Every step of a steady run keeps the invariant. -/
theorem Steady.step (hq : Run.NoneCallsOff exec set.fixtures) (h : Steady o c exec set p)
    (hs : Step o c slots (.steady exec) p q) : Steady o c exec set q := by
  -- A worker that gives up has seen the run called off, and then nothing is claimed of it.
  have hoff : ∀ {P : Prop}, p.cancelled = true → p.cancelled = false → P := by
    intro P h1 h2
    rw [h1] at h2
    cases h2
  have hsound : ∀ {i f a}, p.At i f a → p.cancelled = false → a.Sound o exec f :=
    fun hat hc => h.sound hc _ hat.mem
  have hset : ∀ {i f a}, p.At i f a → f ∈ set.fixtures := by
    intro i f a hat
    rw [← h.fixtures]
    exact List.mem_map_of_mem hat.mem
  cases hs with
  | callOff may => exact may.elim
  | giveUp hat hc => exact h.advance hat (hoff hc) (hoff hc)
  | enter hat _ => exact h.advance hat (fun _ => trivial) (fun _ => rfl)
  | refuse hat hf =>
    exact h.advance hat (fun _ => (verdict_eq_incomplete hf).symm) (fun _ => hf)
  | skip hat _ hc => exact h.advance hat (hoff hc) (hoff hc)
  | launch hat hf _ => exact h.launch hat hf
  | expire hat ht hw =>
    exact h.advance hat (fun hc => (hsound hat hc).expire hw ht)
      (fun _ => Phase.hasStarted_expire _ _)
  | comeBack hat hret =>
    refine h.advance hat (fun hc => ?_) (fun _ => rfl)
    obtain ⟨hf, hlate⟩ := hsound hat hc
    rcases hret with hret | ⟨rfl, hwait⟩
    · exact hoff hret hc
    · exact ⟨hf, rfl, ⟨fun hx => (hlate hx).1, hwait⟩, fun hx => (hlate hx).2⟩
  | drop hat hc => exact h.advance hat (hoff hc) (hoff hc)
  | goOn hat _ =>
    refine h.advance hat (fun hc => ?_) (fun _ => rfl)
    have hv := hsound hat hc
    exact hv
  | timeOut hat hlate =>
    refine h.advance hat (fun hc => ?_) (fun _ => rfl)
    obtain ⟨hf, rfl, hwait, ht⟩ := hsound hat hc
    rw [hc, Bool.false_or] at hlate
    exact (verdict_eq_timedOut hf (hwait.mp hlate) (ht hlate)).symm
  | @judge i f late e hat hgoing =>
    refine h.advance hat (fun hc => ?_) (fun _ => rfl)
    obtain ⟨hf, rfl, hwait, -⟩ := hsound hat hc
    rw [hc, Bool.false_or] at hgoing
    have hne : (exec f).ending ≠ .waited := by
      intro hw
      rw [hwait.mpr hw] at hgoing
      cases hgoing
    exact (verdict_eq_judged hf hne (hq f (hset hat) hf)).symm
  | release hat =>
    refine h.advance hat (fun hc => ?_) (fun _ => rfl)
    have hv := hsound hat hc
    exact hv
  | report ha hn hr => exact h.report ha hn hr
  | abort ha hn hr => exact h.abort ha hn hr

/-- Every run in steady surroundings keeps the invariant. -/
theorem Steady.of_reaches (hq : Run.NoneCallsOff exec set.fixtures)
    (hr : Reaches o c slots (.steady exec) (Pool.start set false) p) : Steady o c exec set p := by
  refine hr.invariant Steady.start ?_
  intro p q h hs
  exact h.step hq hs

/-! ## A run that has ended -/

theorem isOver_iff : p.isOver = true ↔ (∀ v ∈ p.workers, v.phase.isFinished = true) ∧
    (p.aborted = true ∨ p.reported.length = p.workers.length) := by
  simp [isOver]

theorem Steady.workers_length (h : Steady o c exec set p) :
    p.workers.length = (set.fixtures.map (verdict o exec)).length := by
  have := congrArg List.length h.fixtures
  simpa using this

/-- A run that has ended without an abort has reported every verdict. -/
theorem Steady.reported_eq_of_not_aborted (h : Steady o c exec set p) (hover : p.isOver = true)
    (ha : p.aborted = false) : p.reported = set.fixtures.map (verdict o exec) := by
  have hlen : p.reported.length = p.workers.length := by
    have := (isOver_iff.mp hover).2
    simpa [ha] using this
  exact h.taken.eq_of_length (hlen.trans h.workers_length)

/-- A run that has ended has taken as many verdicts as `reportedCount` says. -/
theorem Steady.reported_eq (h : Steady o c exec set p) (hover : p.isOver = true) :
    p.reported = (set.fixtures.map (verdict o exec)).take
      (reportedCount o (set.fixtures.map (verdict o exec))) := by
  cases ha : p.aborted with
  | true =>
    obtain ⟨rest, hrest⟩ := h.taken
    obtain ⟨rs, r, hrep, hrs, hr⟩ := h.ended ha
    -- None of the results before the last one ends the run, so the last one is the first that does.
    have hk : reportedCount o (rs ++ [r] ++ rest) = (rs ++ [r]).length := by
      rw [List.append_assoc, List.singleton_append, reportedCount_append_cons hrs hr]
      simp
    rw [← hrest, hrep, hk, List.take_left]
  | false =>
    rw [← h.reported_eq_of_not_aborted hover ha, reportedCount_eq_length (h.going ha),
      List.take_length]

theorem Steady.aborted_eq (h : Steady o c exec set p) (hover : p.isOver = true) :
    p.aborted = (set.fixtures.map (verdict o exec)).any o.endsAt := by
  cases ha : p.aborted with
  | true =>
    obtain ⟨rest, hrest⟩ := h.taken
    obtain ⟨rs, r, hrep, -, hr⟩ := h.ended ha
    rw [← hrest, hrep]
    simp [hr]
  | false =>
    rw [← h.reported_eq_of_not_aborted hover ha]
    exact (List.any_eq_false.mpr fun r hr => by simp [h.going ha r hr]).symm

/-- The totals of a run that has ended are those of one fixture after the other. -/
theorem Steady.summary_eq (hq : Run.NoneCallsOff exec set.fixtures) (h : Steady o c exec set p)
    (hover : p.isOver = true) : p.summary o = (Run.all o exec false set).summary := by
  have hlen : p.workers.length = set.size := by
    rw [h.workers_length, List.length_map]
    rfl
  have hcount : p.reported.length = reportedCount o (set.fixtures.map (verdict o exec)) := by
    rw [h.reported_eq hover, List.length_take]
    exact Nat.min_eq_left (reportedCount_le_length _ _)
  rw [Run.all_summary hq, Pool.summary]
  simp only [hlen, hcount, ← h.reported_eq hover, h.aborted_eq hover]

/-- In a run that goes on to its end, every complete fixture has been started once. -/
theorem Steady.calls_perm (h : Steady o c exec set p) (hover : p.isOver = true)
    (ha : p.aborted = false) :
    p.calls.Perm ((set.fixtures.filter Fixture.isComplete).map (Call.of o)) := by
  have hdone := (isOver_iff.mp hover).1
  have hstarted : p.workers.filter (fun v => v.phase.hasStarted v.fixture)
      = p.workers.filter (fun v => v.fixture.isComplete) := by
    refine List.filter_congr fun v hv => ?_
    have hfin := hdone v hv
    cases hp : v.phase with
    | finished r => rfl
    | _ => simp [hp, Phase.isFinished] at hfin
  have hcalls := h.calls (h.off.trans ha)
  rw [startedCalls, hstarted] at hcalls
  rw [← h.fixtures, List.filter_map, List.map_map]
  exact hcalls

/-- Whatever the number of slots and the order of the steps, a run that ends in steady surroundings
has reported and printed the verdicts in the order of the fixtures, all of them or, in strict mode, up
to the first failure. In a run that is not strict, every complete fixture was started exactly once,
with its own words, and no other. -/
theorem outcome_of_every_schedule (hq : Run.NoneCallsOff exec set.fixtures)
    (hrun : Reaches o c slots (.steady exec) (Pool.start set false) q) (hover : q.isOver = true) :
    let verdicts := set.fixtures.map (verdict o exec)
    let k := reportedCount o verdicts
    (q.summary o).results = verdicts.take k ∧
    q.printed = .concat ((verdicts.take k).map (Result.report c o.verbose)) ∧
    ((q.summary o).aborted = true ↔
      o.isStrict = true ∧ ∃ r ∈ verdicts, r.isFailure o.incomplete = true) ∧
    (q.summary o).notRun = (set.size : Int) - k ∧
    (o.isStrict = false →
      q.calls.Perm ((set.fixtures.filter Fixture.isComplete).map (Call.of o))) := by
  intro verdicts k
  have h : Steady o c exec set q := .of_reaches hq hrun
  rw [h.summary_eq hq hover]
  refine ⟨Run.all_results hq, ?_, Run.all_aborted_iff hq, Run.all_notRun hq, ?_⟩
  · rw [h.printed, h.reported_eq hover]
  · intro hs
    refine h.calls_perm hover ?_
    rw [h.aborted_eq hover, List.any_eq_false]
    intro r _
    simp [RunOptions.endsAt, hs]

/-- Two complete fixtures with the expected outputs `1` and `2`. -/
def twoFixtures : FixtureSet :=
  ⟨[{ id := [97], programPath := [97], expectedPath := [97], expected := [49] },
    { id := [98], programPath := [98], expectedPath := [98], expected := [50] }]⟩

/-- An interpreter that writes `2` whatever it is asked to run. -/
def writesTwo (_ : Fixture) : Execution := { stdout := [50] }

/-- Both interpreters of a strict run are started at once and the second one is done first. Its verdict
is not reported, because the first fixture fails. -/
theorem outcome_of_overtaking :
    ∃ q, Reaches { mode := Config.strict } {} 2 (.steady writesTwo) (Pool.start twoFixtures false) q ∧
      q.isOver = true ∧
      (q.summary { mode := Config.strict }).results
        = (twoFixtures.fixtures.map (verdict { mode := Config.strict } writesTwo)).take 1 ∧
      (q.summary { mode := Config.strict }).notRun = 1 := by
  have hq : Run.NoneCallsOff writesTwo twoFixtures.fixtures := by
    intro f _ _ h
    cases h
  have hcome : ∀ f late, (Surroundings.steady writesTwo).mayReturn f false late (writesTwo f) :=
    fun f late => Or.inr ⟨rfl, fun h => by cases h⟩
  have hrun : Reaches { mode := Config.strict } {} 2 (.steady writesTwo)
      (Pool.start twoFixtures false) (Pool.start twoFixtures false) := .refl _
  have hrun := hrun.tail (.enter (i := 0) rfl (by decide))
  have hrun := hrun.tail (.enter (i := 1) rfl (by decide))
  have hrun := hrun.tail (.launch (i := 0) rfl rfl rfl)
  have hrun := hrun.tail (.launch (i := 1) rfl rfl rfl)
  have hrun := hrun.tail (.comeBack (i := 1) rfl (hcome _ _))
  have hrun := hrun.tail (.goOn (i := 1) rfl rfl)
  have hrun := hrun.tail (.judge (i := 1) rfl rfl)
  have hrun := hrun.tail (.comeBack (i := 0) rfl (hcome _ _))
  have hrun := hrun.tail (.goOn (i := 0) rfl rfl)
  have hrun := hrun.tail (.judge (i := 0) rfl rfl)
  have hrun := hrun.tail (.abort rfl rfl (by decide))
  have hrun := hrun.tail (.release (i := 0) rfl)
  have hrun := hrun.tail (.release (i := 1) rfl)
  obtain ⟨hres, -, -, hnot, -⟩ := outcome_of_every_schedule hq hrun rfl
  exact ⟨_, hrun, rfl, hres, hnot⟩

end Pool

end Golden
