import Golden.Proofs.Cli.Grammar
import Golden.Proofs.Cli.Invocation
import Golden.Proofs.Cli.Stages

/-!
# What stands behind the separator

Two readers look for the separator: requests are looked for up to the first one, and the flags end at the
first one that is not the value of another flag. Neither looks behind it (`isGiven_append_separator`,
`parse_append_separator`), so what stands there decides nothing and reaches every interpreter as it is,
right in front of the program (`forwarding_verbatim`).
-/

namespace Golden

/-! ## The words of a call -/

namespace Pool

variable {o : RunOptions} {c : Console} {slots : Nat} {w : Surroundings} {p q : Pool}

/-- Every interpreter that is started is started with the words for its fixture. -/
theorem Reaches.calls_of {set : FixtureSet} {cancelled : Bool}
    (h : Reaches o c slots w (Pool.start set cancelled) q) :
    ∀ call ∈ q.calls, call = .of o call.fixture := by
  have hstart : ∀ call ∈ (Pool.start set cancelled).calls, call = .of o call.fixture := nofun
  refine h.invariant (P := fun p => ∀ call ∈ p.calls, call = .of o call.fixture) hstart
    fun {p q} hp hs => ?_
  cases hs with
  | launch =>
    rw [List.forall_mem_append, List.forall_mem_singleton]
    exact ⟨hp, rfl⟩
  | _ => exact hp

end Pool

namespace Cli

variable {env : Environment} {pre : List Bytes} {flags : Flags}

/-! ## Requests -/

theorem isGiven_append_separator (names pre post : List Bytes) :
    isGiven names (pre ++ separator :: post) = isGiven names pre := by
  have hupTo : (pre ++ separator :: post).takeWhile (· != separator)
      = pre.takeWhile (· != separator) := by
    induction pre with
    | nil => simp
    | cons arg pre ih =>
      rw [List.cons_append, List.takeWhile_cons, List.takeWhile_cons, ih]
  rw [isGiven, hupTo, isGiven]

/-! ## Flags -/

/-- Flags that ask for more words to be passed on. -/
def Flags.passing (o : Flags) (words : List Bytes) : Flags :=
  { o with extraArgs := o.extraArgs ++ words }

theorem addAll_cons_eq_ok {i : Item} {items : List Item} {o o' : Flags} :
    o.addAll (i :: items) = .ok o' ↔ ∃ o₁, o.add i = .ok o₁ ∧ o₁.addAll items = .ok o' := by
  rw [Flags.addAll]
  cases o.add i <;> simp

/-- From these flags the arguments lead to those, and with a separator behind them to the same ones that
pass on what follows it. A separator that has been there before is passed on, too. -/
def LeadsOn (o : Flags) (pre : List Bytes) (o' : Flags) : Prop :=
  ∃ kept, (kept = [] ∨ kept = [separator]) ∧ ∀ post,
    o.addAll (Item.read (pre ++ separator :: post)) = .ok (o'.passing (kept ++ post))

theorem LeadsOn.item {o o₁ o' : Flags} {i : Item} {w : List Bytes}
    (hread : ∀ args, Item.read (w ++ args) = i :: Item.read args) (hadd : o.add i = .ok o₁)
    (h : LeadsOn o₁ pre o') : LeadsOn o (w ++ pre) o' := by
  obtain ⟨kept, hkept, hall⟩ := h
  refine ⟨kept, hkept, fun post => ?_⟩
  rw [List.append_assoc, hread, addAll_cons_eq_ok]
  exact ⟨o₁, hadd, hall post⟩

theorem Spells.leadsOn {items : List Item} (h : Spells pre items) {o o' : Flags}
    (hall : o.addAll items = .ok o') : LeadsOn o pre o' := by
  induction h generalizing o with
  | nil =>
    cases hall
    exact ⟨[], Or.inl rfl, fun post => rfl⟩
  | @switch s arg args items spelled _ ih =>
    obtain ⟨o₁, hadd, hall⟩ := addAll_cons_eq_ok.mp hall
    exact .item (w := [arg]) (fun args => (switch spelled (spells_read args)).read_eq) hadd (ih hall)
  | @joined f name v args items named _ ih =>
    obtain ⟨o₁, hadd, hall⟩ := addAll_cons_eq_ok.mp hall
    exact .item (w := [name ++ ('=' : UInt8) :: v])
      (fun args => (joined named (spells_read args)).read_eq) hadd (ih hall)
  | @apart f name v args items named _ ih =>
    obtain ⟨o₁, hadd, hall⟩ := addAll_cons_eq_ok.mp hall
    exact .item (w := [name, v]) (fun args => (apart named (spells_read args)).read_eq) hadd (ih hall)
  | lacking => cases hall
  | @word arg args items isWord _ ih =>
    obtain ⟨o₁, hadd, hall⟩ := addAll_cons_eq_ok.mp hall
    exact .item (w := [arg]) (fun args => (word isWord (spells_read args)).read_eq) hadd (ih hall)
  | @rest args =>
    cases hall
    refine ⟨[separator], Or.inr rfl, fun post => ?_⟩
    rw [List.cons_append, rest.read_eq]
    simp [Flags.addAll, Flags.add, Flags.passing]

/-- Arguments that are accepted still are with a separator behind them, and mean the same but for the words
to pass on: those behind the separator come last. -/
theorem parse_append_separator (h : Flags.parse pre = .ok flags) :
    ∃ kept, (kept = [] ∨ kept = [separator]) ∧ ∀ post,
      Flags.parse (pre ++ separator :: post) = .ok (flags.passing (kept ++ post)) := by
  obtain ⟨hall, hcheck⟩ := parse_eq_ok_iff.mp h
  obtain ⟨kept, hkept, hread⟩ := (spells_read pre).leadsOn hall
  obtain ⟨hboth, hrunner, -⟩ := check_eq_ok_iff.mp hcheck
  exact ⟨kept, hkept, fun post =>
    parse_eq_ok_iff.mpr ⟨hread post, check_eq_ok_iff.mpr ⟨hboth, hrunner, rfl⟩⟩⟩

/-! ## Calls -/

/-- The words of an invocation hold others, as they are and in one piece, right in front of the program. -/
def HoldsInFront (argv words : List Bytes) (program : Bytes) : Prop :=
  ∃ before after, argv = before ++ words ++ program :: after

theorem Plans.holdsInFront {args post words : List Bytes} {p : Plan} {o : RunOptions}
    (h : Plans env args p) (hflags : p.flags.extraArgs = words ++ post)
    (ho : RunOptions.ofConfig p.config = .ok o) (f : Fixture) :
    HoldsInFront (o.args f) post f.programPath := by
  obtain ⟨file, -, happly⟩ := h.configured
  obtain ⟨jobs, -, hconfig, -⟩ := applyFlags_eq_ok happly
  obtain ⟨timeout, -, hoptions⟩ := ofConfig_eq_ok_iff.mp ho
  have hextra : o.extraArgs = file.extraArgs ++ (words ++ post) := by
    rw [hoptions, hconfig, ← hflags]
    rfl
  refine ⟨o.command ++ file.extraArgs ++ words, o.inputArgs f, ?_⟩
  rw [RunOptions.args, hextra]
  simp only [List.append_assoc, List.singleton_append]

/-- Words reach every interpreter that is started for these fixtures as they are and in one piece, right in
front of the program, one after the other or side by side. -/
structure PassesOn (env : Environment) (args post : List Bytes) (p : Plan) (o : RunOptions) : Prop where
  ran : (run env args).run = some (runOf env o p.suite p.set)
  words : ∀ f, HoldsInFront (o.args f) post f.programPath
  calls : ∀ c slots w q, Pool.Reaches o c slots w (Pool.start p.set false) q →
    ∀ call ∈ q.calls, HoldsInFront call.argv post call.fixture.programPath

/-- What stands behind the separator is not interpreted. In place of other words, it decides neither whether
help or the version is asked for nor what the flags are, but for the words to pass on; and whenever fixtures
are run, it is passed on. -/
structure ForwardsVerbatim (env : Environment) (pre : List Bytes) (flags : Flags)
    (post₁ post₂ : List Bytes) : Prop where
  help : wantsHelp (pre ++ separator :: post₁) = wantsHelp (pre ++ separator :: post₂)
  version : wantsVersion (pre ++ separator :: post₁) = wantsVersion (pre ++ separator :: post₂)
  answered : wantsHelp (pre ++ separator :: post₁) = true ∨
      wantsVersion (pre ++ separator :: post₁) = true →
    run env (pre ++ separator :: post₁) = run env (pre ++ separator :: post₂)
  parsed : ∃ words,
    Flags.parse (pre ++ separator :: post₁) = .ok { flags with extraArgs := words ++ post₁ } ∧
      Flags.parse (pre ++ separator :: post₂) = .ok { flags with extraArgs := words ++ post₂ }
  passed : ∀ post p, Plans env (pre ++ separator :: post) p →
    ∃ o, RunOptions.ofConfig p.config = .ok o ∧ PassesOn env (pre ++ separator :: post) post p o

/-- Nothing behind the separator is interpreted, whatever stands there behind arguments that are accepted. -/
theorem forwarding_verbatim (env : Environment) (h : Flags.parse pre = .ok flags)
    (post₁ post₂ : List Bytes) : ForwardsVerbatim env pre flags post₁ post₂ := by
  have hhelp (post : List Bytes) : wantsHelp (pre ++ separator :: post) = wantsHelp pre :=
    isGiven_append_separator _ pre post
  have hversion (post : List Bytes) : wantsVersion (pre ++ separator :: post) = wantsVersion pre :=
    isGiven_append_separator _ pre post
  obtain ⟨kept, -, hparse⟩ := parse_append_separator h
  have hwords (post : List Bytes) :
      flags.passing (kept ++ post) = { flags with extraArgs := flags.extraArgs ++ kept ++ post } := by
    rw [Flags.passing, List.append_assoc]
  constructor
  case help => rw [hhelp, hhelp]
  case version => rw [hversion, hversion]
  case answered =>
    intro hasked
    rw [hhelp, hversion] at hasked
    rw [run, run, hhelp, hhelp, hversion, hversion]
    split
    · rfl
    · rename_i hnot
      rw [if_pos (hasked.resolve_left hnot), if_pos (hasked.resolve_left hnot)]
  case parsed =>
    exact ⟨flags.extraArgs ++ kept, by rw [← hwords, hparse], by rw [← hwords, hparse]⟩
  case passed =>
    intro post p hp
    obtain ⟨o, ho⟩ := hp.valid.options
    have hflags : p.flags.extraArgs = (flags.extraArgs ++ kept) ++ post := by
      have heq := Except.ok.inj (hp.parsed.symm.trans (hparse post))
      rw [heq, hwords]
    have hargs := hp.holdsInFront hflags ho
    refine ⟨o, ho, hp.run_run ho, hargs, ?_⟩
    intro c slots w q hreaches call hcall
    rw [hreaches.calls_of call hcall]
    exact hargs call.fixture

/-- What an invocation finds out that passes on words that look like requests and flags. -/
def demoPlanForwarding : Plan where
  flags := { demoPlan.flags with extraArgs := ["-h", "--", "", "-q"] }
  config := { demoPlan.config with extraArgs := ["-h", "--", "", "-q"] }
  suite := demoPlan.suite
  set := demoSet

/-- Behind the separator there are a request, another separator, an empty word and a flag. -/
theorem forwarding_verbatim_demo :
    let args := demoArgs ++ separator :: ["-h", "--", "", "-q"]
    Flags.parse demoArgs = .ok demoPlan.flags ∧
      wantsHelp args = wantsHelp (demoArgs ++ separator :: ["--version"]) ∧
      ∃ o, RunOptions.ofConfig demoPlanForwarding.config = .ok o ∧
        (run demoEnvironment args).run = some (runOf demoEnvironment o demoPlan.suite demoSet) ∧
        ∀ f, HoldsInFront (o.args f) ["-h", "--", "", "-q"] f.programPath := by
  have hplan : Plans demoEnvironment (demoArgs ++ separator :: ["-h", "--", "", "-q"])
      demoPlanForwarding :=
    ⟨rfl, rfl, rfl, ⟨_, rfl, rfl⟩, rfl, demoTree_resolve, by decide⟩
  have h := forwarding_verbatim demoEnvironment plans_demo.parsed ["-h", "--", "", "-q"] ["--version"]
  obtain ⟨o, ho, hpassed⟩ := h.passed _ demoPlanForwarding hplan
  exact ⟨plans_demo.parsed, h.help, o, ho, hpassed.ran, hpassed.words⟩

end Cli

end Golden
