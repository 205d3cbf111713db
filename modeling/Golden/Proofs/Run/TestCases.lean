import Golden.Proofs.Cli.ExitCode
import Golden.Proofs.Run.Ordering
import Golden.TestCase

/-!
# Two ways to run the same fixtures

A test suite that loads fixtures as test cases selects, skips and judges them by itself. It comes to the
same as a run: the cases and the results of a lenient run that passes inputs inline go together one by
one, for every directory and every interpreter that goes by its words alone (`testCases_agree`).

What a run says about one fixture is said in `TestCase.Agrees`; that it holds needs two facts about
discovery, that a fixture without an input has an empty one and that a complete one has a program.
-/

namespace Golden

/-! ## One fixture -/

theorem compareOutput_iff {expected actual : Bytes} :
    (compareOutput expected actual).1 = true ↔ actual = expected := by
  unfold compareOutput
  split
  · rename_i h
    exact iff_of_true rfl h.symm
  · rename_i h
    exact iff_of_false nofun (Ne.symm h)

section Verdict

variable {o : RunOptions} {exec : Fixture → Execution} {f : Fixture}

theorem verdict_fixture (o : RunOptions) (exec : Fixture → Execution) (f : Fixture) :
    (verdict o exec f).fixture = f := by
  unfold verdict
  split
  · rfl
  · dsimp only
    split
    · exact Result.judged_fixture f _
    · exact Result.judged_fixture f _
    · split <;> rfl
    · rfl

/-- A verdict says incomplete of the fixtures that lack files, whatever the interpreter does. -/
theorem verdict_status_eq_incomplete_iff :
    (verdict o exec f).status = .incomplete ↔ f.isComplete = false := by
  have hjudged (e : Execution) : (Result.judged f e).status ≠ .incomplete := by
    unfold Result.judged
    split
    · nofun
    · unfold Result.compared
      dsimp only
      split <;> nofun
  cases hcomplete : f.isComplete with
  | false =>
    rw [verdict_eq_incomplete hcomplete]
    exact iff_of_true rfl rfl
  | true =>
    refine iff_of_false ?_ nofun
    unfold verdict
    rw [if_neg (by simp [hcomplete])]
    dsimp only
    split
    · exact hjudged _
    · exact hjudged _
    · split <;> nofun
    · nofun

theorem verdict_status_eq_passed_iff (hcomplete : f.isComplete = true)
    (hexited : (exec f).ending = .exited) :
    (verdict o exec f).status = .passed ↔ (exec f).stdout = f.expected := by
  rw [verdict_eq_judged hcomplete (by simp [hexited]) (by simp [hexited]), Result.judged, hexited]
  show (if (exec f).stdout = f.expected then Status.passed else Status.failed) = .passed ↔ _
  by_cases h : (exec f).stdout = f.expected
  · exact iff_of_true (if_pos h) h
  · exact iff_of_false (by simp [h]) h

end Verdict

/-- A fixture has an input iff the words of its invocation end with the flag and the input: without one
the last word is the program, which is not empty as a missing input is. -/
theorem hasInput_iff_isSuffix {o : RunOptions} {f : Fixture} (hmode : o.inputMode = Config.inlineInput)
    (hinput : f.inputPath = [] → f.input = []) (hprogram : f.programPath ≠ []) :
    f.hasInput = true ↔ [o.inlineFlag, f.input] <:+ o.args f := by
  have hne : Config.inlineInput ≠ Config.fileInput := by decide
  cases hhas : f.hasInput with
  | true =>
    refine iff_of_true rfl ⟨o.command ++ o.extraArgs ++ [f.programPath], ?_⟩
    rw [RunOptions.args, RunOptions.inputArgs, hhas, hmode, if_neg hne]
    rfl
  | false =>
    refine iff_of_false nofun ?_
    rintro ⟨before, hargs⟩
    have hpath : f.inputPath = [] := by simpa [Fixture.hasInput] using hhas
    rw [RunOptions.args, RunOptions.inputArgs, hhas] at hargs
    have hlast := congrArg List.getLast? hargs
    simp [hinput hpath] at hlast
    exact hprogram hlast

/-! ## A case and a result -/

namespace TestCase

/-- The case of a fixture and its result in a run go together: they have the same name and program, the
case is to be skipped iff the result is incomplete, and otherwise the words of the interpreter's invocation
end with the input iff there is one, and the result is a pass iff the outputs compare as equal. -/
structure Agrees (o : RunOptions) (exec : List Bytes → Execution) (case : TestCase) (r : Result) :
    Prop where
  name : case.name = r.fixture.id
  program : case.program = r.fixture.programPath
  skip : case.skip = true ↔ r.status = .incomplete
  input : case.skip = false → (case.hasInput = true ↔ [o.inlineFlag, case.input] <:+ o.args r.fixture)
  passed : case.skip = false → (exec (o.args r.fixture)).ending = .exited →
    (r.status = .passed ↔
      (compareOutput case.expected (exec (o.args r.fixture)).stdout).1 = true)

theorem agrees_verdict {o : RunOptions} (exec : List Bytes → Execution) {f : Fixture}
    (hmode : o.inputMode = Config.inlineInput) (hinput : f.inputPath = [] → f.input = []) :
    Agrees o exec (ofFixture f) (verdict o (fun f => exec (o.args f)) f) := by
  have hfixture := verdict_fixture o (fun f => exec (o.args f)) f
  have hskip : (ofFixture f).skip = false ↔ f.isComplete = true := by
    rw [ofFixture, Bool.not_eq_false']
  refine ⟨by rw [hfixture]; rfl, by rw [hfixture]; rfl, ?_, fun h => ?_, fun h hexited => ?_⟩
  · rw [verdict_status_eq_incomplete_iff, ofFixture, Bool.not_eq_true']
  · rw [hfixture]
    exact hasInput_iff_isSuffix hmode hinput
      (Cli.path_ne_nil_of_isComplete (hskip.mp h) (show Role.program ≠ .input from nofun))
  · rw [hfixture] at hexited ⊢
    rw [verdict_status_eq_passed_iff (hskip.mp h) hexited, compareOutput_iff]
    rfl

end TestCase

/-! ## All of them -/

theorem loadTestCases_eq_error_iff {t : Tree} {dir programExtension : Bytes} {e : Fault} :
    loadTestCases t dir programExtension = .error e ↔
      resolve t dir ⟨programExtension, true⟩ = .error e := by
  unfold loadTestCases
  cases resolve t dir ⟨programExtension, true⟩ <;> simp

theorem loadTestCases_of_resolve {t : Tree} {dir programExtension : Bytes} {set : FixtureSet}
    (h : resolve t dir ⟨programExtension, true⟩ = .ok set) :
    loadTestCases t dir programExtension = .ok (set.fixtures.map TestCase.ofFixture) := by
  simp only [loadTestCases, h]

/-- A run that is not strict reports every verdict. -/
theorem Run.all_results_of_lenient {o : RunOptions} {exec : Fixture → Execution} {set : FixtureSet}
    (hq : NoneCallsOff exec set.fixtures) (hlenient : o.isStrict = false) :
    (all o exec false set).summary.results = set.fixtures.map (verdict o exec) := by
  have hends : ∀ r ∈ set.fixtures.map (verdict o exec), o.endsAt r = false := by
    intro r _
    rw [RunOptions.endsAt, hlenient, Bool.false_and]
  rw [all_results hq, reportedCount_eq_length hends, List.take_length]

/-- Fixtures that are loaded as test cases and fixtures that are run are the same, and so is what becomes
of them. Loading fails exactly when discovery does. Otherwise the cases agree one by one with the results
of every lenient run of the fixtures that passes inputs inline and is not called off, one after the other
or side by side in any order; and side by side, the interpreter is started exactly once for each complete
fixture, with its words. -/
theorem testCases_agree (t : Tree) (dir programExtension : Bytes) :
    (∀ e, loadTestCases t dir programExtension = .error e ↔
      resolve t dir ⟨programExtension, true⟩ = .error e) ∧
    ∀ set, resolve t dir ⟨programExtension, true⟩ = .ok set →
      ∃ cases, loadTestCases t dir programExtension = .ok cases ∧
        ∀ o (exec : List Bytes → Execution), o.mode = Config.lenient →
          o.inputMode = Config.inlineInput →
          Run.NoneCallsOff (fun f => exec (o.args f)) set.fixtures →
          List.Forall₂ (TestCase.Agrees o exec) cases
            (Run.all o (fun f => exec (o.args f)) false set).summary.results ∧
          ∀ c slots q, Pool.Reaches o c slots (.steady fun f => exec (o.args f))
              (Pool.start set false) q → q.isOver = true →
            List.Forall₂ (TestCase.Agrees o exec) cases (q.summary o).results ∧
            q.calls.Perm ((set.fixtures.filter Fixture.isComplete).map (Call.of o)) := by
  refine ⟨fun e => loadTestCases_eq_error_iff, fun set hset => ?_⟩
  refine ⟨_, loadTestCases_of_resolve hset, fun o exec hmode hinline hq => ?_⟩
  obtain ⟨listing, -, hlisting⟩ := resolve_eq_ok_iff.mp hset
  have hlenient : o.isStrict = false := by
    rw [RunOptions.isStrict, hmode]
    decide
  have hagree : List.Forall₂ (TestCase.Agrees o exec) (set.fixtures.map TestCase.ofFixture)
      (set.fixtures.map (verdict o fun f => exec (o.args f))) := by
    rw [List.forall₂_map_left_iff, List.forall₂_map_right_iff, List.forall₂_same]
    intro f hf
    refine TestCase.agrees_verdict exec hinline fun hpath => ?_
    have hcontent := input_of_mem hlisting hf
    rwa [if_pos (Or.inl hpath)] at hcontent
  have hall := Run.all_results_of_lenient hq hlenient
  refine ⟨by rwa [hall], fun c slots q hreaches hover => ?_⟩
  have hsteady : Pool.Steady o c _ set q := .of_reaches hq hreaches
  refine ⟨by rwa [hsteady.summary_eq hq hover, hall], hsteady.calls_perm hover ?_⟩
  rw [hsteady.aborted_eq hover, List.any_eq_false]
  intro r _
  rw [RunOptions.endsAt, hlenient, Bool.false_and]
  exact Bool.false_ne_true

/-! ## A directory -/

/-- The files of a test case with an empty input and of one without an expected output. -/
def sampleListing : List (Bytes × Entry) :=
  [("a.asm", .file "println 1"), ("a.in", .file []), ("a.out", .file "1\n"), ("b.asm", .file [])]

def sampleTree : Tree where
  cwd := []
  entries := (["cases"], .dir) :: sampleListing.map fun entry => (["cases", entry.1], entry.2)

def sampleSet : FixtureSet where
  fixtures := [
    { id := "a"
      programPath := "cases/a.asm"
      inputPath := "cases/a.in"
      expectedPath := "cases/a.out"
      expected := "1\n" },
    { id := "b"
      programPath := "cases/b.asm" }]

def sampleOptions : RunOptions :=
  { command := ["interp"], mode := Config.lenient, inputMode := Config.inlineInput, inlineFlag := "-u" }

theorem sampleTree_resolve : resolve sampleTree "cases" ⟨".asm", true⟩ = .ok sampleSet := by
  have hsorted : sampleListing.mergeSort (fun a b => Bytes.le a.1 b.1) = sampleListing :=
    List.mergeSort_of_pairwise (by decide)
  exact resolve_eq_ok_iff.mpr ⟨sampleListing, congrArg Except.ok hsorted, rfl⟩

/-- An interpreter that writes one line. -/
def writesOne (_ : List Bytes) : Execution := { stdout := "1\n" }

/-- The first test case passes and the second one is left out, by themselves and in a run with one slot. -/
theorem testCases_agree_sample :
    let exec := fun f => writesOne (sampleOptions.args f)
    ∃ cases q, loadTestCases sampleTree "cases" ".asm" = .ok cases ∧
      cases.map TestCase.skip = [false, true] ∧
      Pool.Reaches sampleOptions {} 1 (.steady exec) (Pool.start sampleSet false) q ∧
      q.isOver = true ∧
      List.Forall₂ (TestCase.Agrees sampleOptions writesOne) cases
        (Run.all sampleOptions exec false sampleSet).summary.results ∧
      List.Forall₂ (TestCase.Agrees sampleOptions writesOne) cases
        (q.summary sampleOptions).results := by
  intro exec
  obtain ⟨cases, hload, hagree⟩ := (testCases_agree sampleTree "cases" ".asm").2 _ sampleTree_resolve
  obtain ⟨hall, hpool⟩ := hagree sampleOptions writesOne rfl rfl nofun
  have hskip : cases.map TestCase.skip = [false, true] := by
    cases hload.symm.trans (loadTestCases_of_resolve sampleTree_resolve)
    rfl
  have hcome : ∀ f late, (Surroundings.steady exec).mayReturn f false late (exec f) :=
    fun f late => Or.inr ⟨rfl, nofun⟩
  have hrun : Pool.Reaches sampleOptions {} 1 (.steady exec) (Pool.start sampleSet false)
      (Pool.start sampleSet false) := .refl _
  have hrun := hrun.tail (.enter (i := 0) rfl (by decide))
  have hrun := hrun.tail (.launch (i := 0) rfl rfl rfl)
  have hrun := hrun.tail (.comeBack (i := 0) rfl (hcome _ _))
  have hrun := hrun.tail (.goOn (i := 0) rfl rfl)
  have hrun := hrun.tail (.judge (i := 0) rfl rfl)
  have hrun := hrun.tail (.release (i := 0) rfl)
  have hrun := hrun.tail (.enter (i := 1) rfl (by decide))
  have hrun := hrun.tail (.refuse (i := 1) rfl rfl)
  have hrun := hrun.tail (.release (i := 1) rfl)
  have hrun := hrun.tail (.report rfl rfl (by decide))
  have hrun := hrun.tail (.report rfl rfl (by decide))
  exact ⟨cases, _, hload, hskip, hrun, rfl, hall, (hpool {} 1 _ hrun rfl).1⟩

end Golden
