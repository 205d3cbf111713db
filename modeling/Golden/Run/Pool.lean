import Golden.Run.Basic

/-!
# The pool of workers

How a run is carried out side by side: one worker for each fixture, a bounded number of slots, and a
reporter that takes the results in the order of the fixtures. Each of a worker's looks at the state of
the run is a step of its own, so the relation `Pool.Step` allows every interleaving of the workers,
the reporter, time limits, and a caller who calls the run off.

A worker waits for a slot or for the run to be called off. With a slot it refuses an incomplete
fixture, gives up if the run is called off, and otherwise starts the interpreter. When that returns,
the worker looks twice: first whether the run is called off, then whether its own time limit, or the
run, is over. The reporter prints what it takes, and ends a strict run at the first failure by calling
it off.

What happens from outside, and when, is left to `Surroundings`: whether the caller calls the run off,
whether a time limit is over before its interpreter is judged, and what an interpreter comes back with.
-/

namespace Golden

/-- How far a worker has come. -/
inductive Phase where
  /-- Waiting for a slot. -/
  | queued
  /-- Holding a slot, before the interpreter is started. -/
  | admitted
  /-- The interpreter runs; `expired` says whether its time limit is over. -/
  | running (expired : Bool)
  /-- The interpreter has returned. -/
  | returned (e : Execution) (expired : Bool)
  /-- The first look has found the run going on. -/
  | looked (e : Execution) (expired : Bool)
  /-- The result can be taken; the slot is still held. -/
  | delivered (r : Result)
  /-- The result can be taken and no slot is held. -/
  | finished (r : Result)
deriving DecidableEq, Repr

namespace Phase

/-- Does a worker in this phase hold a slot? -/
def holdsSlot : Phase → Bool
  | .queued => false
  | .finished _ => false
  | _ => true

/-- The result that can be taken. -/
def result? : Phase → Option Result
  | .delivered r => some r
  | .finished r => some r
  | _ => none

/-- Has the worker done its work? -/
def isFinished : Phase → Bool
  | .finished _ => true
  | _ => false

/-- The phase once the worker's time limit is over. -/
def expire : Phase → Phase
  | .running _ => .running true
  | .returned e _ => .returned e true
  | .looked e _ => .looked e true
  | p => p

end Phase

/-- A fixture and how far it has come. -/
structure Worker where
  fixture : Fixture
  phase : Phase := .queued
deriving DecidableEq, Repr

/-- The start of an interpreter: the fixture it is for, and the words it is invoked with. -/
structure Call where
  fixture : Fixture
  argv : List Bytes
deriving DecidableEq, Repr

/-- The call for a fixture. -/
def Call.of (o : RunOptions) (f : Fixture) : Call := ⟨f, o.args f⟩

/-- The state of a run that is carried out side by side. -/
structure Pool where
  workers : List Worker
  /-- Is the run called off, by its caller or by the reporter? -/
  cancelled : Bool := false
  /-- The results the reporter has taken. -/
  reported : List Result := []
  /-- Has the reporter ended the run at a failure? -/
  aborted : Bool := false
  /-- The interpreters that were started, in this order. -/
  calls : List Call := []
  /-- What the reporter has printed. -/
  printed : Output := {}
deriving DecidableEq, Repr

/-- What may happen to a run from outside. -/
structure Surroundings where
  /-- May the caller call the run off? -/
  mayCallOff : Prop
  /-- May the time limit of a fixture be over before its interpreter has been judged? -/
  mayExpire : Fixture → Prop
  /-- May the interpreter of a fixture come back with an execution? The two flags say whether the run
  is called off and whether the time limit is over. -/
  mayReturn : Fixture → (off late : Bool) → Execution → Prop

namespace Pool

/-- The pool before the first step. -/
def start (set : FixtureSet) (cancelled : Bool) : Pool :=
  { workers := set.fixtures.map fun f => { fixture := f }, cancelled := cancelled }

/-- How many slots are held. -/
def held (p : Pool) : Nat := p.workers.countP (·.phase.holdsSlot)

/-- The pool with a worker in a new phase. -/
def move (p : Pool) (i : Nat) (phase : Phase) : Pool :=
  { p with workers := p.workers.modify i fun w => { w with phase := phase } }

/-- Is the worker with this number in a phase? -/
def At (p : Pool) (i : Nat) (f : Fixture) (phase : Phase) : Prop := p.workers[i]? = some ⟨f, phase⟩

/-- The result that the reporter waits for, if it can be taken. -/
def next? (p : Pool) : Option Result := (p.workers[p.reported.length]?).bind (·.phase.result?)

/-- Is everything done? -/
def isOver (p : Pool) : Bool :=
  p.workers.all (·.phase.isFinished) && (p.aborted || p.reported.length == p.workers.length)

/-- The totals of the reported results. -/
def summary (o : RunOptions) (p : Pool) : Summary :=
  let s := p.reported.foldl Summary.add (Run.begin o p.workers.length)
  if p.aborted then
    { s with aborted := true, notRun := (p.workers.length : Int) - p.reported.length }
  else s

/-- The pool after the reporter has taken a result and printed its report. -/
def take (o : RunOptions) (c : Console) (p : Pool) (r : Result) : Pool :=
  { p with reported := p.reported ++ [r], printed := p.printed ++ r.report c o.verbose }

/-- One step of a run. -/
inductive Step (o : RunOptions) (c : Console) (slots : Nat) (w : Surroundings) : Pool → Pool → Prop
  /-- The caller calls the run off. -/
  | callOff (p : Pool) (may : w.mayCallOff) : Step o c slots w p { p with cancelled := true }
  /-- A waiting worker gives up. -/
  | giveUp {p i f} (at_ : p.At i f .queued) (off : p.cancelled = true) :
      Step o c slots w p (p.move i (.finished (.skipped f)))
  /-- A waiting worker takes a free slot, also in a run that is called off. -/
  | enter {p i f} (at_ : p.At i f .queued) (free : p.held < slots) :
      Step o c slots w p (p.move i .admitted)
  /-- An incomplete fixture is refused. -/
  | refuse {p i f} (at_ : p.At i f .admitted) (incomplete : f.isComplete = false) :
      Step o c slots w p (p.move i (.delivered (.incomplete f)))
  /-- A run that is called off starts nothing. -/
  | skip {p i f} (at_ : p.At i f .admitted) (complete : f.isComplete = true)
      (off : p.cancelled = true) : Step o c slots w p (p.move i (.delivered (.skipped f)))
  /-- The interpreter is started. -/
  | launch {p i f} (at_ : p.At i f .admitted) (complete : f.isComplete = true)
      (on : p.cancelled = false) :
      Step o c slots w p { p.move i (.running false) with calls := p.calls ++ [.of o f] }
  /-- A time limit is over. -/
  | expire {p i f phase} (at_ : p.At i f phase) (limited : 0 < o.timeout.ns) (may : w.mayExpire f) :
      Step o c slots w p (p.move i phase.expire)
  /-- The interpreter returns. -/
  | comeBack {p i f x e} (at_ : p.At i f (.running x)) (may : w.mayReturn f p.cancelled x e) :
      Step o c slots w p (p.move i (.returned e x))
  /-- The first look finds the run called off. -/
  | drop {p i f x e} (at_ : p.At i f (.returned e x)) (off : p.cancelled = true) :
      Step o c slots w p (p.move i (.delivered (.cancelled f e)))
  /-- The first look finds the run going on. -/
  | goOn {p i f x e} (at_ : p.At i f (.returned e x)) (on : p.cancelled = false) :
      Step o c slots w p (p.move i (.looked e x))
  /-- The second look finds the time limit or the run over. -/
  | timeOut {p i f x e} (at_ : p.At i f (.looked e x)) (late : (p.cancelled || x) = true) :
      Step o c slots w p (p.move i (.delivered (.timedOut o.timeout f e)))
  /-- The second look finds nothing, and the outputs are judged. -/
  | judge {p i f x e} (at_ : p.At i f (.looked e x)) (going : (p.cancelled || x) = false) :
      Step o c slots w p (p.move i (.delivered (.judged f e)))
  /-- A slot is given back. -/
  | release {p i f r} (at_ : p.At i f (.delivered r)) :
      Step o c slots w p (p.move i (.finished r))
  /-- The reporter takes the next result. -/
  | report {p r} (running : p.aborted = false) (next : p.next? = some r)
      (fine : (o.isStrict && r.isFailure o.incomplete) = false) :
      Step o c slots w p (p.take o c r)
  /-- The reporter takes a failure and ends the run. -/
  | abort {p r} (running : p.aborted = false) (next : p.next? = some r)
      (bad : (o.isStrict && r.isFailure o.incomplete) = true) :
      Step o c slots w p { p.take o c r with aborted := true, cancelled := true }

/-- Any number of steps. -/
inductive Reaches (o : RunOptions) (c : Console) (slots : Nat) (w : Surroundings) :
    Pool → Pool → Prop
  | refl (p : Pool) : Reaches o c slots w p p
  | tail {p q r : Pool} (before : Reaches o c slots w p q) (last : Step o c slots w q r) :
      Reaches o c slots w p r

end Pool

end Golden
