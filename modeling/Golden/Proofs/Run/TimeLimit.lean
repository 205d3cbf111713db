import Golden.Proofs.Run.Ordering

/-!
# Where a timeout comes from

The worker looks twice when its interpreter has come back: whether the run is called off, and whether its
own time limit, or the run, is over. The second look does not tell the two apart. A result that says
"timed out" therefore comes from one of three things that happened on the way (`timeout_explained`): the
fixture's own time limit was over before the second look, the run was called off between the two looks,
or the interpreter itself failed with these words. Where none of them happened, what is reported of an
interpreter that came back is the verdict on it, or that the fixture did not run.

These are facts about the way and not about its end, so runs are taken with all the pools they have gone
through (`Pool.History`). What a worker knows of its own past is `Pool.Knows`.
-/

namespace Golden

/-- The words that a timeout starts with. -/
def timeoutWords : Bytes := "timed out after "

/-- Is the cause of the error a timeout, going by its words? -/
def Result.SaysTimedOut (r : Result) (cause : Fault) : Prop :=
  r.status = .error ∧ r.fault = some (.execution r.fixture.id (some cause)) ∧
    Bytes.startsWith timeoutWords cause.text = true

/-- Is the time limit over, while the interpreter runs or before the worker is done looking? -/
def Phase.isLate : Phase → Bool
  | .running late => late
  | .returned _ late => late
  | .looked _ late => late
  | _ => false

namespace Pool

/-! ## Histories -/

/-- A run as the pools it has gone through, the last one first. -/
inductive History (o : RunOptions) (c : Console) (slots : Nat) (w : Surroundings) (first : Pool) :
    List Pool → Prop
  | start : History o c slots w first [first]
  | step {p q : Pool} {past : List Pool} (before : History o c slots w first (p :: past))
      (last : Step o c slots w p q) : History o c slots w first (q :: p :: past)

section

variable {o : RunOptions} {c : Console} {slots : Nat} {w : Surroundings} {first p q : Pool}
  {past : List Pool}

theorem History.reaches (h : History o c slots w first (p :: past)) :
    Reaches o c slots w first p := by
  generalize hs : p :: past = ps at h
  induction h generalizing p past with
  | start =>
    cases hs
    exact .refl first
  | step _ last ih =>
    cases hs
    exact (ih rfl).tail last

/-- Every run has a history. -/
theorem Reaches.exists_history (h : Reaches o c slots w first p) :
    ∃ past, History o c slots w first (p :: past) := by
  induction h with
  | refl => exact ⟨[], .start⟩
  | tail _ last ih =>
    obtain ⟨past, hpast⟩ := ih
    exact ⟨_, hpast.step last⟩

end

/-! ## What has happened to a worker -/

section Events

variable (ps : List Pool) (i : Nat) (f : Fixture)

/-- The interpreter has come back with an execution. -/
def CameBack (e : Execution) : Prop := ∃ p ∈ ps, ∃ late, p.At i f (.returned e late)

/-- The worker's own time limit was over before it was done looking. -/
def RanLate : Prop := ∃ p ∈ ps, ∃ a, p.At i f a ∧ a.isLate = true

/-- The run was called off when the worker had looked once and not yet twice. -/
def CalledOffBetweenLooks : Prop :=
  ∃ p ∈ ps, p.cancelled = true ∧ ∃ e late, p.At i f (.looked e late)

/-- The interpreter has come back, and with this execution only. -/
def CameBackWith (e : Execution) : Prop := ∀ e', CameBack ps i f e' ↔ e' = e

/-- Where a worker's result comes from. -/
inductive Explained (o : RunOptions) : Result → Prop
  | skipped (never : ∀ e, ¬CameBack ps i f e) : Explained o (.skipped f)
  | incomplete (never : ∀ e, ¬CameBack ps i f e) : Explained o (.incomplete f)
  | cancelled {e} (back : CameBackWith ps i f e) : Explained o (.cancelled f e)
  | judged {e} (back : CameBackWith ps i f e) : Explained o (.judged f e)
  | timedOut {e} (back : CameBackWith ps i f e)
      (why : 0 < o.timeout.ns ∧ RanLate ps i f ∨ CalledOffBetweenLooks ps i f) :
      Explained o (.timedOut o.timeout f e)

/-- What a worker knows of its own past in each phase. -/
def Knows (o : RunOptions) : Phase → Prop
  | .queued | .admitted => ∀ e, ¬CameBack ps i f e
  | .running late => (∀ e, ¬CameBack ps i f e) ∧ (late = true → 0 < o.timeout.ns)
  | .returned e late | .looked e late =>
    CameBackWith ps i f e ∧ (late = true → 0 < o.timeout.ns)
  | .delivered r | .finished r => Explained ps i f o r

end Events

section

variable {o : RunOptions} {ps past : List Pool} {p q : Pool} {i j : Nat} {f g : Fixture} {a b : Phase}

theorem cameBack_cons {e : Execution} :
    CameBack (q :: ps) i f e ↔ (∃ late, q.At i f (.returned e late)) ∨ CameBack ps i f e := by
  simp only [CameBack, List.mem_cons, or_and_right, exists_or, exists_eq_left]

theorem RanLate.cons (h : RanLate ps i f) (q : Pool) : RanLate (q :: ps) i f := by
  obtain ⟨p, hp, hlate⟩ := h
  exact ⟨p, List.mem_cons_of_mem _ hp, hlate⟩

theorem CalledOffBetweenLooks.cons (h : CalledOffBetweenLooks ps i f) (q : Pool) :
    CalledOffBetweenLooks (q :: ps) i f := by
  obtain ⟨p, hp, hoff⟩ := h
  exact ⟨p, List.mem_cons_of_mem _ hp, hoff⟩

/-- A pool in which no interpreter has just come back adds nothing. -/
theorem cameBack_cons_of_not (hq : q.At i f b) (hb : ∀ e late, b ≠ .returned e late)
    {e : Execution} : CameBack (q :: ps) i f e ↔ CameBack ps i f e := by
  rw [cameBack_cons]
  refine ⟨fun h => h.resolve_left ?_, Or.inr⟩
  rintro ⟨late, hat⟩
  exact hb e late (hq.unique hat).2

/-- Neither does one in which the worker is where it was. -/
theorem cameBack_cons_of_same (hp : p.At i f a) (hq : q.At i f a) {e : Execution} :
    CameBack (q :: p :: past) i f e ↔ CameBack (p :: past) i f e := by
  rw [cameBack_cons]
  refine ⟨fun h => h.elim ?_ id, Or.inr⟩
  rintro ⟨late, hat⟩
  obtain ⟨-, rfl⟩ := hq.unique hat
  exact cameBack_cons.mpr (Or.inl ⟨late, hp⟩)

/-- What happens to others changes nothing of what explains a result. -/
theorem Explained.cons (hsame : ∀ e, CameBack (q :: ps) i f e ↔ CameBack ps i f e) {r : Result}
    (h : Explained ps i f o r) : Explained (q :: ps) i f o r := by
  have hnever : (∀ e, ¬CameBack ps i f e) → ∀ e, ¬CameBack (q :: ps) i f e :=
    fun hn e => mt (hsame e).mp (hn e)
  have hback : ∀ {e}, CameBackWith ps i f e → CameBackWith (q :: ps) i f e :=
    fun hb e' => (hsame e').trans (hb e')
  cases h with
  | skipped never => exact .skipped (hnever never)
  | incomplete never => exact .incomplete (hnever never)
  | cancelled back => exact .cancelled (hback back)
  | judged back => exact .judged (hback back)
  | timedOut back why =>
    exact .timedOut (hback back) (why.imp (And.imp_right fun h => h.cons q) fun h => h.cons q)

theorem Knows.cons (hsame : ∀ e, CameBack (q :: ps) i f e ↔ CameBack ps i f e)
    (h : Knows ps i f o a) : Knows (q :: ps) i f o a := by
  cases a with
  | queued | admitted => exact fun e => mt (hsame e).mp (h e)
  | running late => exact ⟨fun e => mt (hsame e).mp (h.1 e), h.2⟩
  | returned e late | looked e late => exact ⟨fun e' => (hsame e').trans (h.1 e'), h.2⟩
  | delivered r | finished r => exact Explained.cons hsame h

end

/-! ## Every step keeps what the workers know -/

section

variable {o : RunOptions} {c : Console} {slots : Nat} {w : Surroundings} {set : FixtureSet}
  {past : List Pool} {p q : Pool} {i : Nat} {f : Fixture} {a b : Phase}

/-- Every worker knows its own past. -/
def AllKnow (o : RunOptions) (p : Pool) (past : List Pool) : Prop :=
  ∀ i f a, p.At i f a → Knows (p :: past) i f o a

theorem AllKnow.start (o : RunOptions) (set : FixtureSet) (cancelled : Bool) :
    AllKnow o (Pool.start set cancelled) [] := by
  intro i f a hat
  obtain ⟨g, -, hg⟩ := List.mem_map.mp hat.mem
  cases hg
  rintro e ⟨p, hp, late, hat'⟩
  obtain rfl := List.mem_singleton.mp hp
  cases (hat.unique hat').2

/-- A step that moves no worker. -/
theorem AllKnow.still (h : AllKnow o p past) (hq : q.workers = p.workers) :
    AllKnow o q (p :: past) := by
  intro i f a hat
  have hat' : p.At i f a := by
    unfold At at hat ⊢
    rw [← hq]
    exact hat
  exact (h i f a hat').cons fun e => cameBack_cons_of_same hat' hat

/-- A step that moves one worker. -/
theorem AllKnow.advance (h : AllKnow o p past) (hat : p.At i f a)
    (hq : q.workers = (p.move i b).workers)
    (hb : q.At i f b → Knows (p :: past) i f o a → Knows (q :: p :: past) i f o b) :
    AllKnow o q (p :: past) := by
  have hmoved : ∀ {j g a'}, q.At j g a' ↔ (p.move i b).At j g a' := by
    intro j g a'
    unfold At
    rw [hq]
  intro j g a' hat'
  by_cases hij : i = j
  · subst hij
    obtain ⟨rfl, rfl⟩ := (hmoved.mp hat').unique (hat.move_self b)
    exact hb hat' (h i g a hat)
  · have hstill := (at_move_of_ne hij b).mp (hmoved.mp hat')
    exact (h j g a' hstill).cons fun e => cameBack_cons_of_same hstill hat'

/-- A step that moves one worker, but not to where its interpreter has come back. -/
theorem AllKnow.advance_quiet (h : AllKnow o p past) (hat : p.At i f a)
    (hq : q.workers = (p.move i b).workers) (hne : ∀ e late, b ≠ .returned e late)
    (hb : Knows (p :: past) i f o a → Knows (p :: past) i f o b) : AllKnow o q (p :: past) :=
  h.advance hat hq fun hat' ha => (hb ha).cons fun _ => cameBack_cons_of_not hat' hne

/-- The interpreter comes back, or its limit is over when it has. -/
theorem cameBackWith_cons_of_returned {e : Execution} {late : Bool} (hq : q.At i f (.returned e late))
    (hbefore : (∀ e', ¬CameBack (p :: past) i f e') ∨ CameBackWith (p :: past) i f e) :
    CameBackWith (q :: p :: past) i f e := by
  intro e'
  rw [cameBack_cons]
  constructor
  · rintro (⟨late', hat⟩ | hback)
    · cases (hq.unique hat).2
      rfl
    · rcases hbefore with hnever | honly
      · exact absurd hback (hnever e')
      · exact (honly e').mp hback
  · rintro rfl
    exact Or.inl ⟨late, hq⟩

/-- Every step keeps what the workers know. The second look is the one place where a timeout comes from,
and what it finds has just happened. -/
theorem AllKnow.step (h : AllKnow o p past) (hs : Step o c slots w p q) : AllKnow o q (p :: past) := by
  cases hs with
  | callOff | report | abort => exact h.still rfl
  | enter hat => exact h.advance_quiet hat rfl nofun id
  | launch hat => exact h.advance_quiet hat rfl nofun fun never => ⟨never, nofun⟩
  | giveUp hat | skip hat => exact h.advance_quiet hat rfl nofun fun never => .skipped never
  | refuse hat => exact h.advance_quiet hat rfl nofun fun never => .incomplete never
  | @expire i f phase hat limited =>
    cases phase with
    | queued | admitted | delivered | finished => exact h.advance_quiet hat rfl nofun id
    | running late => exact h.advance_quiet hat rfl nofun fun hk => ⟨hk.1, fun _ => limited⟩
    | looked e late => exact h.advance_quiet hat rfl nofun fun hk => ⟨hk.1, fun _ => limited⟩
    | returned e late =>
      refine h.advance hat rfl fun hat' hk => ?_
      exact ⟨cameBackWith_cons_of_returned hat' (Or.inr hk.1), fun _ => limited⟩
  | comeBack hat =>
    refine h.advance hat rfl fun hat' hk => ?_
    exact ⟨cameBackWith_cons_of_returned hat' (Or.inl hk.1), hk.2⟩
  | drop hat => exact h.advance_quiet hat rfl nofun fun hk => .cancelled hk.1
  | goOn hat => exact h.advance_quiet hat rfl nofun id
  | judge hat => exact h.advance_quiet hat rfl nofun fun hk => .judged hk.1
  | release hat => exact h.advance_quiet hat rfl nofun id
  | @timeOut i f late e hat hover =>
    refine h.advance_quiet hat rfl nofun fun hk => .timedOut hk.1 ?_
    rcases Bool.or_eq_true_iff.mp hover with hoff | hlate
    · exact Or.inr ⟨p, List.mem_cons_self, hoff, e, late, hat⟩
    · exact Or.inl ⟨hk.2 hlate, p, List.mem_cons_self, _, hat, hlate⟩

theorem AllKnow.of_history {cancelled : Bool}
    (hrun : History o c slots w (Pool.start set cancelled) (q :: past)) : AllKnow o q past := by
  generalize hs : q :: past = ps at hrun
  induction hrun generalizing q past with
  | start =>
    cases hs
    exact .start o set cancelled
  | step _ last ih =>
    cases hs
    exact (ih rfl).step last

/-- Every result that has been reported is explained by the past of its worker. -/
theorem explained_of_reported {cancelled : Bool}
    (hrun : History o c slots w (Pool.start set cancelled) (q :: past)) {r : Result}
    (hr : q.reported[i]? = some r) : Explained (q :: past) i r.fixture o r := by
  have horder : InOrder o c set q := .of_reaches hrun.reaches
  obtain ⟨f, a, hat, hresult⟩ := horder.kept i r hr
  have hknows := AllKnow.of_history hrun i f a hat
  rw [horder.own i f a hat r hresult]
  cases a with
  | delivered x | finished x =>
    rw [← Option.some.inj hresult]
    exact hknows
  | _ => cases hresult

/-! ## Where a timeout comes from -/

theorem judged_saysTimedOut {e : Execution} {cause : Fault}
    (h : (Result.judged f e).SaysTimedOut cause) : e.ending = .failed cause := by
  obtain ⟨-, hfault, -⟩ := h
  unfold Result.judged at hfault
  split at hfault
  · rename_i own hending
    obtain ⟨-, rfl⟩ := Fault.classifiedBy.inj (Option.some.inj hfault)
    exact hending
  · cases hfault

/-- A reported error that says "timed out" has one of three causes: the fixture's own limit was over before
the worker was done looking, the run was called off between its two looks, or the interpreter itself failed
with these words. A fixture whose interpreter came back, with neither of the first two, is reported with
the verdict on what came back, or as not run. -/
theorem timeout_explained {cancelled : Bool}
    (hrun : History o c slots w (Pool.start set cancelled) (q :: past)) {r : Result}
    (hr : q.reported[i]? = some r) :
    (∀ cause, r.SaysTimedOut cause →
      0 < o.timeout.ns ∧ RanLate (q :: past) i r.fixture ∨
      CalledOffBetweenLooks (q :: past) i r.fixture ∨
      ∃ e, CameBack (q :: past) i r.fixture e ∧ e.ending = .failed cause) ∧
    (∀ e, CameBack (q :: past) i r.fixture e → ¬RanLate (q :: past) i r.fixture →
      ¬CalledOffBetweenLooks (q :: past) i r.fixture →
      r = .judged r.fixture e ∨ r = .cancelled r.fixture e) := by
  have hexplained := explained_of_reported hrun hr
  generalize r.fixture = f at hexplained ⊢
  cases hexplained with
  | skipped never | incomplete never =>
    exact ⟨fun _ hsays => (nomatch hsays.1), fun e hback => absurd hback (never e)⟩
  | @cancelled e back =>
    refine ⟨fun _ hsays => (nomatch hsays.1), fun e' hback _ _ => Or.inr ?_⟩
    rw [(back e').mp hback]
  | @judged e back =>
    refine ⟨fun cause hsays => Or.inr (Or.inr ?_), fun e' hback _ _ => Or.inl ?_⟩
    · exact ⟨e, (back e).mpr rfl, judged_saysTimedOut hsays⟩
    · rw [(back e').mp hback]
  | timedOut back why =>
    constructor
    · intro _ _
      rcases why with hlate | hoff
      · exact Or.inl hlate
      · exact Or.inr (Or.inl hoff)
    · intro _ _ hlate hoff
      exact (why.elim (fun h => hlate h.2) hoff).elim

end

/-- One complete fixture, with no expected output. -/
def oneFixture : Fixture := { id := [97], programPath := [97], expectedPath := [97] }

/-- Surroundings in which time limits may be over at any moment, and every interpreter may come back with
`e` at any moment. -/
def anyMoment (mayCallOff : Prop) (e : Execution) : Surroundings where
  mayCallOff := mayCallOff
  mayExpire _ := True
  mayReturn _ _ _ e' := e' = e

/-- An interpreter is stopped when its limit of a second is over, and this is why it is reported as timed
out. -/
theorem timeout_explained_limit :
    let o : RunOptions := { timeout := ⟨1000000000⟩ }
    let r := Result.timedOut o.timeout oneFixture {}
    ∃ q past, History o {} 1 (anyMoment False {}) (Pool.start ⟨[oneFixture]⟩ false) (q :: past) ∧
      q.isOver = true ∧ q.reported[0]? = some r ∧ r.SaysTimedOut (timeoutFault o.timeout) ∧
      (0 < o.timeout.ns ∧ RanLate (q :: past) 0 oneFixture ∨
        CalledOffBetweenLooks (q :: past) 0 oneFixture ∨
        ∃ e, CameBack (q :: past) 0 oneFixture e ∧ e.ending = .failed (timeoutFault o.timeout)) := by
  intro o r
  have hrun : History o {} 1 (anyMoment False {}) (Pool.start ⟨[oneFixture]⟩ false)
      [Pool.start ⟨[oneFixture]⟩ false] := .start
  have hrun := hrun.step (.enter (i := 0) rfl (by decide))
  have hrun := hrun.step (.launch (i := 0) rfl rfl rfl)
  have hrun := hrun.step (.expire (i := 0) rfl (by decide) trivial)
  have hrun := hrun.step (.comeBack (i := 0) rfl rfl)
  have hrun := hrun.step (.goOn (i := 0) rfl rfl)
  have hrun := hrun.step (.timeOut (i := 0) rfl rfl)
  have hrun := hrun.step (.report rfl rfl (by decide))
  have hrun := hrun.step (.release (i := 0) rfl)
  have hsays : r.SaysTimedOut (timeoutFault o.timeout) := ⟨rfl, rfl, by decide⟩
  exact ⟨_, _, hrun, rfl, rfl, hsays, (timeout_explained hrun (r := r) rfl).1 _ hsays⟩

/-- Without any limit, an interpreter that did what was expected is reported as timed out, because its
caller calls the run off between the two looks; an interpreter that fails with these words is reported
with them; and an interpreter that comes back before its limit is over is reported as timed out, because
the limit is over when it is looked at. -/
theorem timeout_without_deadline :
    (∃ q past r, History {} {} 1 (anyMoment True {}) (Pool.start ⟨[oneFixture]⟩ false) (q :: past) ∧
      q.isOver = true ∧ q.reported = [r] ∧ r.SaysTimedOut (timeoutFault ⟨0⟩)) ∧
    (∃ q past r, History {} {} 1 (anyMoment False { ending := .failed (.plain "timed out after 5s") })
        (Pool.start ⟨[oneFixture]⟩ false) (q :: past) ∧
      q.isOver = true ∧ q.reported = [r] ∧ r.SaysTimedOut (.plain "timed out after 5s")) ∧
    (∃ q past r, History { timeout := ⟨1000000000⟩ } {} 1 (anyMoment False {})
        (Pool.start ⟨[oneFixture]⟩ false) (q :: past) ∧
      q.isOver = true ∧ q.reported = [r] ∧ r.SaysTimedOut (timeoutFault ⟨1000000000⟩) ∧
      ∃ p ∈ past, p.At 0 oneFixture (.returned {} false)) := by
  have first : ∀ {o w}, History o {} 1 w (Pool.start ⟨[oneFixture]⟩ false)
      [Pool.start ⟨[oneFixture]⟩ false] := .start
  refine ⟨?_, ?_, ?_⟩
  · have hrun := first.step (o := {}) (w := anyMoment True {}) (.enter (i := 0) rfl (by decide))
    have hrun := hrun.step (.launch (i := 0) rfl rfl rfl)
    have hrun := hrun.step (.comeBack (i := 0) rfl rfl)
    have hrun := hrun.step (.goOn (i := 0) rfl rfl)
    have hrun := hrun.step (.callOff _ trivial)
    have hrun := hrun.step (.timeOut (i := 0) rfl rfl)
    have hrun := hrun.step (.report rfl rfl (by decide))
    have hrun := hrun.step (.release (i := 0) rfl)
    exact ⟨_, _, _, hrun, rfl, rfl, rfl, rfl, by decide⟩
  · have hrun := first.step (o := {})
      (w := anyMoment False { ending := .failed (.plain "timed out after 5s") })
      (.enter (i := 0) rfl (by decide))
    have hrun := hrun.step (.launch (i := 0) rfl rfl rfl)
    have hrun := hrun.step (.comeBack (i := 0) rfl rfl)
    have hrun := hrun.step (.goOn (i := 0) rfl rfl)
    have hrun := hrun.step (.judge (i := 0) rfl rfl)
    have hrun := hrun.step (.report rfl rfl (by decide))
    have hrun := hrun.step (.release (i := 0) rfl)
    exact ⟨_, _, _, hrun, rfl, rfl, rfl, rfl, by decide⟩
  · have hrun := first.step (o := { timeout := ⟨1000000000⟩ }) (w := anyMoment False {})
      (.enter (i := 0) rfl (by decide))
    have hrun := hrun.step (.launch (i := 0) rfl rfl rfl)
    have hrun := hrun.step (.comeBack (i := 0) rfl rfl)
    have hrun := hrun.step (.expire (i := 0) rfl (by decide) trivial)
    have hrun := hrun.step (.goOn (i := 0) rfl rfl)
    have hrun := hrun.step (.timeOut (i := 0) rfl rfl)
    have hrun := hrun.step (.report rfl rfl (by decide))
    have hrun := hrun.step (.release (i := 0) rfl)
    exact ⟨_, _, _, hrun, rfl, rfl, ⟨rfl, rfl, by decide⟩, _, List.mem_of_getElem? (i := 4) rfl, rfl⟩

end Pool

end Golden
