import Golden.Proofs.Run.Schedule

/-!
# Every run keeps the order of the fixtures

Whatever the interpreters do, whoever calls the run off and however its steps are interleaved, a worker
delivers one result of its own fixture and stays with it, the reporter takes the results in the order of
the fixtures, and what is printed is the reports of the results taken (`Pool.InOrder`).
-/

namespace Golden

theorem Phase.result?_expire (a : Phase) : a.expire.result? = a.result? := by
  cases a <;> rfl

theorem Result.judged_fixture (f : Fixture) (e : Execution) : (Result.judged f e).fixture = f := by
  unfold judged
  split <;> rfl

namespace Pool

variable {o : RunOptions} {c : Console} {slots : Nat} {w : Surroundings} {set : FixtureSet}
  {p q : Pool} {i j : Nat} {f g : Fixture} {a b : Phase}

/-! ## One worker among others -/

theorem At.move_self (h : p.At i f a) (b : Phase) : (p.move i b).At i f b := by
  unfold At at h ⊢
  rw [move, List.getElem?_modify_eq, h]
  rfl

theorem at_move_of_ne (hne : i ≠ j) (b : Phase) : (p.move i b).At j g a ↔ p.At j g a := by
  show (p.workers.modify i _)[j]? = _ ↔ _
  rw [List.getElem?_modify_ne _ _ hne]
  rfl

theorem At.unique (h : p.At i f a) (h' : p.At i g b) : f = g ∧ a = b := by
  unfold At at h h'
  rw [h, Option.some.injEq, Worker.mk.injEq] at h'
  exact h'

theorem next?_eq_some {r : Result} (h : p.next? = some r) :
    ∃ f a, p.At p.reported.length f a ∧ a.result? = some r := by
  obtain ⟨v, hv, hr⟩ := Option.bind_eq_some_iff.mp h
  exact ⟨v.fixture, v.phase, hv, hr⟩

/-! ## The order -/

/-- What a run in any surroundings has done so far, it has done in the order of the fixtures. -/
structure InOrder (o : RunOptions) (c : Console) (set : FixtureSet) (p : Pool) : Prop where
  fixtures : p.workers.map Worker.fixture = set.fixtures
  own : ∀ i f a, p.At i f a → ∀ r, a.result? = some r → r.fixture = f
  /-- A result that has been taken is still the one its worker has to deliver. -/
  kept : ∀ i r, p.reported[i]? = some r → ∃ f a, p.At i f a ∧ a.result? = some r
  printed : p.printed = .concat (p.reported.map (Result.report c o.verbose))

theorem InOrder.start (o : RunOptions) (c : Console) (set : FixtureSet) (cancelled : Bool) :
    InOrder o c set (Pool.start set cancelled) where
  fixtures := List.map_map.trans (List.map_id _)
  own := by
    intro i f a hat r hr
    obtain ⟨g, -, hg⟩ := List.mem_map.mp hat.mem
    cases hg
    cases hr
  kept := nofun
  printed := rfl

/-- A worker goes on; if it has something to deliver already, it stays with that. -/
theorem InOrder.advance (h : InOrder o c set p) (hat : p.At i f a)
    (hkeep : ∀ r, a.result? = some r → b.result? = some r)
    (hown : ∀ r, b.result? = some r → a.result? = some r ∨ r.fixture = f) :
    InOrder o c set (p.move i b) where
  fixtures := (hat.move_fixtures b).trans h.fixtures
  own := by
    intro j g a' hat' r hr
    by_cases hij : i = j
    · subst hij
      obtain ⟨rfl, rfl⟩ := hat'.unique (hat.move_self b)
      rcases hown r hr with hr | hr
      · exact h.own i g a hat r hr
      · exact hr
    · exact h.own j g a' ((at_move_of_ne hij b).mp hat') r hr
  kept := by
    intro j r hr
    obtain ⟨g, a', hat', hr'⟩ := h.kept j r hr
    by_cases hij : i = j
    · subst hij
      obtain ⟨rfl, rfl⟩ := hat'.unique hat
      exact ⟨g, b, hat.move_self b, hkeep r hr'⟩
    · exact ⟨g, a', (at_move_of_ne hij b).mpr hat', hr'⟩
  printed := h.printed

/-- The reporter takes the next result. -/
theorem InOrder.take (h : InOrder o c set p) {r : Result} (hnext : p.next? = some r) :
    InOrder o c set (p.take o c r) where
  fixtures := h.fixtures
  own := h.own
  kept := by
    intro i x hx
    change (p.reported ++ [r])[i]? = some x at hx
    rw [List.getElem?_append] at hx
    split at hx
    · exact h.kept i x hx
    · rename_i hi
      rw [List.getElem?_singleton] at hx
      split at hx
      · rename_i hlast
        have hlength : i = p.reported.length := by omega
        subst hlength
        rw [← Option.some.inj hx]
        exact next?_eq_some hnext
      · cases hx
  printed := by
    show p.printed ++ _ = .concat ((p.reported ++ [r]).map (Result.report c o.verbose))
    rw [h.printed, List.map_append, Output.concat_append]
    simp

/-- Every step keeps the order. -/
theorem InOrder.step (h : InOrder o c set p) (hs : Step o c slots w p q) : InOrder o c set q := by
  cases hs with
  | callOff => exact ⟨h.fixtures, h.own, h.kept, h.printed⟩
  | enter hat | comeBack hat | goOn hat => exact h.advance hat nofun nofun
  | launch hat =>
    have hmoved := h.advance (b := .running false) hat nofun nofun
    exact ⟨hmoved.fixtures, hmoved.own, hmoved.kept, hmoved.printed⟩
  | giveUp hat | refuse hat | skip hat | drop hat | timeOut hat =>
    refine h.advance hat nofun fun r hr => Or.inr ?_
    obtain rfl := Option.some.inj hr
    rfl
  | @judge i f late e hat =>
    refine h.advance hat nofun fun r hr => Or.inr ?_
    obtain rfl := Option.some.inj hr
    exact Result.judged_fixture f e
  | expire hat =>
    refine h.advance hat (fun r hr => ?_) fun r hr => Or.inl ?_
    · rw [Phase.result?_expire]
      exact hr
    · rw [← Phase.result?_expire]
      exact hr
  | release hat => exact h.advance hat (fun _ hr => hr) fun _ hr => Or.inl hr
  | report _ hnext => exact h.take hnext
  | abort _ hnext =>
    have htaken := h.take hnext
    exact ⟨htaken.fixtures, htaken.own, htaken.kept, htaken.printed⟩

theorem InOrder.of_reaches {cancelled : Bool}
    (hr : Reaches o c slots w (Pool.start set cancelled) p) : InOrder o c set p := by
  refine hr.invariant (InOrder.start o c set cancelled) ?_
  intro p q h hs
  exact h.step hs

/-- The results taken are those of the first fixtures, in their order. -/
theorem InOrder.taken (h : InOrder o c set p) : p.reported.map Result.fixture <+: set.fixtures := by
  rw [List.prefix_iff_getElem?]
  intro i hi
  rw [List.length_map] at hi
  obtain ⟨f, a, hat, hr⟩ := h.kept i p.reported[i] (List.getElem?_eq_getElem hi)
  rw [List.getElem_map, h.own i f a hat _ hr, ← h.fixtures, List.getElem?_map, hat]
  rfl

end Pool

end Golden
