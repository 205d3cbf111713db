import Golden.Proofs.Cli.Stages
import Golden.Proofs.Console.Coloring
import Golden.Proofs.Run.Closing

/-!
# Colours decorate

Two invocations that differ only in whether the output starts out coloured lead to the same but for the
colours, in every stage and so as a whole (`coloring_run`). Two that differ only in how long the run takes
lead to the same but for the line of the summary that tells the time (`run_elapsed`). Together they say
what colours do to the output of an invocation: taken out of it, they leave the uncoloured output
(`colors_decorate`).
-/

namespace Golden

/-! ## Reports and summaries -/

theorem Result.coloring_report (c : Console) (verbose : Bool) (r : Result) :
    Output.Coloring (r.report c.uncolored verbose) (r.report c verbose) := by
  unfold report
  split
  · exact .refl _
  · exact c.coloring_case _

namespace Summary

variable (c : Console) (elapsed : Duration) (s : Summary)

theorem coloring_countLine {line line' : Bytes → Bytes → Output} {label : Bytes} {n : Nat}
    (h : ∀ value, Output.Coloring (line label value) (line' label value)) :
    Output.Coloring (countLine line label n) (countLine line' label n) := by
  unfold countLine
  split
  · exact .refl _
  · exact h _

theorem coloring_totals :
    Output.Coloring (s.totals c.uncolored elapsed) (s.totals c elapsed) := by
  have hvalue (inks : List Ink) (label value : Bytes) :=
    c.coloring_summaryValue inks label value
  have hnotRun : Output.Coloring
      (if s.aborted then c.uncolored.summaryItem "Not run"
        (decimalInt s.notRun ++ " (stopped at first failure)") else {})
      (if s.aborted then c.summaryItem "Not run"
        (decimalInt s.notRun ++ " (stopped at first failure)") else {}) := by
    split
    · exact hvalue _ _ _
    · exact .refl _
  exact ((((((hvalue _ _ _).append (coloring_countLine fun _ => hvalue _ _ _)).append
    (coloring_countLine fun _ => hvalue _ _ _)).append
    (coloring_countLine fun _ => hvalue _ _ _)).append hnotRun).append (hvalue _ _ _)).append
    (hvalue _ _ _)

theorem coloring_failureList :
    Output.Coloring (s.failureList c.uncolored) (s.failureList c) := by
  unfold failureList
  split
  · exact .refl _
  · exact ((Output.Coloring.refl _).append (c.coloring_summaryLabel _)).append
      (.concat_map fun _ _ => c.coloring_summaryValue _ _ _)

theorem coloring_finalLine : Output.Coloring (s.finalLine c.uncolored) (s.finalLine c) := by
  unfold finalLine
  split
  · exact c.coloring_finalSuccess _
  · exact c.coloring_finalFailure _

theorem coloring_print :
    Output.Coloring (s.print c.uncolored elapsed) (s.print c elapsed) :=
  (((c.coloring_summaryHeader _).append (s.coloring_totals c elapsed)).append
    (s.coloring_failureList c)).append (s.coloring_finalLine c)

end Summary

/-! ## A written duration has no colours -/

theorem escByte_not_mem_decimal (n : Nat) : escByte ∉ decimal n := not_mem_decimal (by decide) n

theorem Bytes.mem_of_mem_dropRightWhile {p : UInt8 → Bool} {b : UInt8} {s : Bytes}
    (h : b ∈ Bytes.dropRightWhile p s) : b ∈ s := by
  have hreverse := (List.dropWhile_suffix p).subset (List.mem_reverse.mp h)
  exact List.mem_reverse.mp hreverse

theorem Duration.escByte_not_mem_withPlaces (n places : Nat) : escByte ∉ withPlaces n places := by
  have hpadded : escByte ∉ padLeft places 0x30 (decimal (n % Nat.pow 10 places)) := by
    rw [padLeft, List.mem_append, List.mem_replicate, not_or]
    exact ⟨fun h => absurd h.2 (by decide), escByte_not_mem_decimal _⟩
  rw [withPlaces, List.mem_append, not_or]
  refine ⟨escByte_not_mem_decimal _, ?_⟩
  split
  · exact List.not_mem_nil
  · rw [List.mem_cons, not_or]
    exact ⟨by decide, fun h => hpadded (Bytes.mem_of_mem_dropRightWhile h)⟩

theorem Duration.escByte_not_mem_magnitudeText (n : Nat) : escByte ∉ magnitudeText n := by
  have hunit {s unit : Bytes} (hs : escByte ∉ s) (hunit : escByte ∉ unit) : escByte ∉ s ++ unit := by
    rw [List.mem_append, not_or]
    exact ⟨hs, hunit⟩
  have hcount (count : Nat) {p : Prop} [Decidable p] {unit : Bytes} (hunit' : escByte ∉ unit) :
      escByte ∉ (if p then decimal count ++ unit else []) := by
    split
    · exact hunit (escByte_not_mem_decimal _) hunit'
    · exact List.not_mem_nil
  have hplaces := escByte_not_mem_withPlaces
  unfold magnitudeText
  split_ifs
  · decide
  · exact hunit (escByte_not_mem_decimal _) (by decide)
  · exact hunit (hplaces _ _) (by decide)
  · exact hunit (hplaces _ _) (by decide)
  · exact hunit (hunit (hunit (hcount _ (by decide)) (hcount _ (by decide))) (hplaces _ _)) (by decide)

theorem Duration.escByte_not_mem_text (d : Duration) : escByte ∉ d.text := by
  unfold text
  split
  · rw [List.mem_cons, not_or]
    exact ⟨by decide, escByte_not_mem_magnitudeText _⟩
  · exact escByte_not_mem_magnitudeText _

namespace Cli

/-! ## The stages of an invocation -/

/-- The second outcome is the first one with escape sequences put into what is printed. -/
structure Outcome.Coloring (plain colored : Outcome) : Prop where
  code : colored.code = plain.code
  output : Output.Coloring plain.output colored.output
  run : colored.run = plain.run

namespace Outcome.Coloring

variable {r r' : Outcome} {o o' : Output}

theorem refl (r : Outcome) : Coloring r r := ⟨rfl, .refl _, rfl⟩

theorem after (h : Output.Coloring o o') (hr : Coloring r r') : Coloring (.after o r) (.after o' r') :=
  ⟨hr.code, h.append hr.output, hr.run⟩

end Outcome.Coloring

variable (env : Environment) (c : Console) (flags : Flags)

theorem coloring_ofFault (f : Fault) :
    Outcome.Coloring (.ofFault c.uncolored f) (.ofFault c f) :=
  ⟨rfl, c.coloring_error _, rfl⟩

theorem coloring_usageError (e : FlagFault) :
    Output.Coloring (usageError c.uncolored e) (usageError c e) :=
  (c.coloring_error _).append (.refl _)

/-- No name of a flag is longer than its column, and none has more bytes than characters. -/
theorem leftAligned_flagHelp : ∀ entry ∈ flagHelp,
    Console.leftAligned flagColumn entry.1
      = entry.1 ++ List.replicate (flagColumn - entry.1.length).toNat 0x20 := by
  decide +kernel

theorem coloring_usage : Output.Coloring (usage c.uncolored) (usage c) := by
  have hflags : Output.Coloring
      (.concat (flagHelp.map fun entry => c.uncolored.helpFlag entry.1 entry.2 flagColumn))
      (.concat (flagHelp.map fun entry => c.helpFlag entry.1 entry.2 flagColumn)) :=
    .concat_map fun entry hentry => c.coloring_helpFlag (leftAligned_flagHelp entry hentry) _
  have hexamples : Output.Coloring
      (.concat (exampleHelp.map fun entry => c.uncolored.helpExample entry.1 entry.2))
      (.concat (exampleHelp.map fun entry => c.helpExample entry.1 entry.2)) :=
    .concat_map fun _ _ => c.coloring_helpExample _ _
  have hhead := ((((c.coloring_helpTitle
    "asmcheck - golden-file test harness for an assembly interpreter").append
    (c.coloring_helpSection "Usage:")).append
    (c.coloring_helpUsage "asmcheck [flags] [<dir>] [<interpreter-flags>]")).append
    (c.coloring_helpUsage "asmcheck [flags] <archive.txtar>")).append
    (c.coloring_helpUsage "asmcheck [flags] [<dir>] -- <interpreter-flags>...")
  exact ((((((((hhead.append (c.coloring_helpSection _)).append (.refl _)).append
    (.refl _)).append (.refl _)).append (c.coloring_helpSection _)).append hflags).append
    (c.coloring_helpSection _)).append hexamples).append (.refl _)

theorem coloring_loadConfig (t : Tree) (named : Bytes) :
    Output.Coloring (loadConfig t c.uncolored named).output (loadConfig t c named).output := by
  unfold loadConfig
  split
  · exact .refl _
  · exact .concat_map fun _ _ => c.coloring_warning _

theorem coloring_runSet (o : RunOptions) (suite : Suite) (set : FixtureSet) :
    Outcome.Coloring (runSet env c.uncolored o suite set) (runSet env c o suite set) := by
  refine ⟨rfl, Output.Coloring.append (.concat_map fun r _ => r.coloring_report c _) ?_, rfl⟩
  show Output.Coloring (if c.quiet then {} else _) _
  split
  · exact .refl _
  · exact Summary.coloring_print c _ _

theorem coloring_runSuite (config : Config) (suite : Suite) :
    Outcome.Coloring (runSuite env c.uncolored flags config suite)
      (runSuite env c flags config suite) := by
  unfold runSuite
  split
  · exact coloring_ofFault c _
  · split
    · exact ⟨rfl, c.coloring_warning _, rfl⟩
    · split
      · exact ⟨rfl, c.coloring_error _, rfl⟩
      · exact .after (.refl _) (coloring_runSet env c _ _ _)

theorem coloring_runFlags :
    Outcome.Coloring (runFlags env c.uncolored flags) (runFlags env c flags) := by
  refine .after (coloring_loadConfig c _ _) ?_
  rw [loadConfig_result _ c.uncolored c]
  split
  · exact coloring_ofFault c _
  · split
    · exact coloring_ofFault c _
    · split
      · exact coloring_ofFault c _
      · exact coloring_runSuite env c flags _ _

/-- What colours change about an invocation is that there are escape sequences in what it prints. -/
theorem coloring_run (args : List Bytes) :
    Outcome.Coloring (run { env with color := false } args) (run env args) := by
  unfold run
  split
  · exact ⟨rfl, coloring_usage { color := env.color }, rfl⟩
  · split
    · exact .refl _
    · split
      · exact ⟨rfl, coloring_usageError { color := env.color } _, rfl⟩
      · exact coloring_runFlags env (consoleOf env _) _

/-! ## The clock -/

/-- The line of a summary that tells the time. -/
def timeLine (elapsed : Duration) : Output := .line ("  Time: " ++ elapsed.roundToMillisecond.text)

/-- What an uncoloured summary prints before the line that tells the time. -/
def beforeTime (s : Summary) : Output :=
  let c : Console := {}
  c.summaryHeader "Summary" ++ (c.summaryPassed "Passed" (decimal s.passed)
    ++ Summary.countLine c.summaryFailed "Failed" s.failed
    ++ Summary.countLine c.summaryFailed "Errors" s.errored
    ++ Summary.countLine c.summaryItem "Incomplete" s.incomplete
    ++ (if s.aborted then
        c.summaryItem "Not run" (decimalInt s.notRun ++ " (stopped at first failure)") else {})
    ++ c.summaryItem "Total" (decimalInt s.total))

/-- What an uncoloured summary prints after it. -/
def afterTime (s : Summary) : Output := s.failureList {} ++ s.finalLine {}

/-- The two outputs are the same, or end with a summary and differ only in the time that it tells. -/
def SameButTime (elapsed elapsed' : Duration) (a b : Output) : Prop :=
  a = b ∨ ∃ (before : Output) (s : Summary),
    a = before ++ (beforeTime s ++ timeLine elapsed ++ afterTime s) ∧
    b = before ++ (beforeTime s ++ timeLine elapsed' ++ afterTime s)

variable {elapsed elapsed' : Duration} {a b : Output}

theorem print_eq (hc : c.color = false) (s : Summary) (elapsed : Duration) :
    s.print c elapsed = beforeTime s ++ timeLine elapsed ++ afterTime s := by
  obtain ⟨color, quiet⟩ := c
  cases hc
  have htime : Console.summaryItem {} "Time" elapsed.roundToMillisecond.text = timeLine elapsed := rfl
  rw [beforeTime, ← htime, Output.append_assoc (Console.summaryHeader {} "Summary"), afterTime,
    ← Output.append_assoc]
  rfl

namespace SameButTime

theorem refl (a : Output) : SameButTime elapsed elapsed' a a := Or.inl rfl

theorem prepend (o : Output) (h : SameButTime elapsed elapsed' a b) :
    SameButTime elapsed elapsed' (o ++ a) (o ++ b) := by
  rcases h with rfl | ⟨before, s, rfl, rfl⟩
  · exact refl _
  · exact Or.inr ⟨o ++ before, s, (Output.append_assoc ..).symm, (Output.append_assoc ..).symm⟩

theorem print (hc : c.color = false) (s : Summary) :
    SameButTime elapsed elapsed' (s.print c elapsed) (s.print c elapsed') :=
  Or.inr ⟨{}, s, by rw [Output.empty_append, print_eq c hc], by rw [Output.empty_append, print_eq c hc]⟩

/-- Time does not go to standard error. -/
theorem err_eq (h : SameButTime elapsed elapsed' a b) : b.err = a.err := by
  rcases h with rfl | ⟨before, s, rfl, rfl⟩
  · rfl
  · simp only [Output.append_def, timeLine, Output.line]

theorem eq (h : SameButTime elapsed elapsed a b) : a = b := by
  rcases h with rfl | ⟨before, s, rfl, rfl⟩
  · rfl
  · rfl

end SameButTime

theorem sameButTime_runSet (hc : c.color = false) (elapsed : Duration) (o : RunOptions)
    (suite : Suite) (set : FixtureSet) :
    SameButTime env.elapsed elapsed (runSet env c o suite set).output
      (runSet { env with elapsed := elapsed } c o suite set).output := by
  refine SameButTime.prepend _ ?_
  show SameButTime _ _ (if c.quiet then {} else _) (if c.quiet then {} else _)
  split
  · exact .refl _
  · exact .print c hc _

/-- How long a run takes changes nothing but the line that tells it. -/
theorem run_elapsed (hcolor : env.color = false) (args : List Bytes) (elapsed : Duration) :
    (run { env with elapsed := elapsed } args).code = (run env args).code ∧
      SameButTime env.elapsed elapsed (run env args).output
        (run { env with elapsed := elapsed } args).output := by
  have hsame (h : run { env with elapsed := elapsed } args = run env args) :
      (run { env with elapsed := elapsed } args).code = (run env args).code ∧
        SameButTime env.elapsed elapsed (run env args).output
          (run { env with elapsed := elapsed } args).output := by
    rw [h]
    exact ⟨rfl, .refl _⟩
  cases hhelp : wantsHelp args with
  | true => exact hsame (by simp only [run, hhelp, if_true])
  | false =>
  cases hversion : wantsVersion args with
  | true => exact hsame (by simp only [run, hhelp, hversion, if_true])
  | false =>
  cases hparse : Flags.parse args with
  | error e =>
    have hrun (env : Environment) := run_of_parse_error hhelp hversion env hparse
    exact hsame (by rw [hrun, hrun])
  | ok flags =>
    have hrun (env : Environment) := run_of_parse_ok hhelp hversion env hparse
    by_cases h : ∃ config suite set, Reached env flags config suite set
    · obtain ⟨config, suite, set, hreached⟩ := h
      obtain ⟨o, ho⟩ := (configure_valid hreached.1).options
      have hreached' : Reached { env with elapsed := elapsed } flags config suite set := hreached
      have hconsole : (consoleOf env flags).color = false := by rw [consoleOf, hcolor]; rfl
      have hset := sameButTime_runSet env (consoleOf env flags) hconsole elapsed
        { o with verbose := flags.verbose } suite set
      rw [hrun, hrun, hreached.runFlags_eq ho, hreached'.runFlags_eq ho]
      simp only [Outcome.after_code, Outcome.after_output]
      exact ⟨rfl, .prepend _ (.prepend _ hset)⟩
    · obtain ⟨r, hends, -, -⟩ := exists_alwaysEnds fun config suite set hreached =>
        h ⟨config, suite, set, hreached⟩
      refine hsame ?_
      rw [hrun, hrun]
      exact (hends elapsed flags.quiet flags.verbose).trans
        (hends env.elapsed flags.quiet flags.verbose).symm

/-! ## Taking the colours out -/

theorem escByte_not_mem_timeLine (elapsed : Duration) : escByte ∉ (timeLine elapsed).out := by
  show escByte ∉ utf8 "  Time: " ++ elapsed.roundToMillisecond.text ++ utf8 "\n"
  simp only [List.mem_append, not_or]
  exact ⟨⟨by decide, Duration.escByte_not_mem_text _⟩, by decide⟩

theorem SameButTime.escByte_not_mem (h : SameButTime elapsed elapsed' a b) (ha : escByte ∉ a.out) :
    escByte ∉ b.out := by
  rcases h with rfl | ⟨before, s, rfl, rfl⟩
  · exact ha
  · simp only [Output.append_def, List.mem_append, not_or] at ha ⊢
    obtain ⟨hbefore, ⟨hhead, -⟩, htail⟩ := ha
    exact ⟨hbefore, ⟨hhead, escByte_not_mem_timeLine _⟩, htail⟩

/-- What is printed, without the escape sequences of colours. -/
def withoutColors (o : Output) : Output := ⟨stripColors o.out, stripColors o.err⟩

/-- Colours are for the eye: when what an invocation prints without them has no escape byte of its own, the
invocation that starts out coloured ends with the same exit code, and what it prints is the same once the
colours are taken out, up to the time of the run where that differs. Both are in one environment but for the
colours and the clock; so they share the name of the temporary directory, which reports may hold. -/
theorem colors_decorate (env : Environment) (args : List Bytes)
    (hout : escByte ∉ (run { env with color := false } args).output.out)
    (herr : escByte ∉ (run { env with color := false } args).output.err) (elapsed : Duration) :
    let plain := run { env with color := false } args
    let colored := run { env with color := true, elapsed := elapsed } args
    colored.code = plain.code ∧
      (withoutColors colored.output).err = plain.output.err ∧
      SameButTime env.elapsed elapsed plain.output (withoutColors colored.output) ∧
      (elapsed = env.elapsed → withoutColors colored.output = plain.output) := by
  intro plain colored
  obtain ⟨hcode, htime⟩ := run_elapsed { env with color := false } rfl args elapsed
  have hcolor := coloring_run { env with color := true, elapsed := elapsed } args
  have hstrip : withoutColors colored.output
      = (run { env with color := false, elapsed := elapsed } args).output := by
    have herr' := htime.err_eq.symm ▸ herr
    rw [withoutColors, hcolor.output.out.strip (htime.escByte_not_mem hout),
      hcolor.output.err.strip herr']
  rw [← hstrip] at htime
  refine ⟨hcolor.code.trans hcode, htime.err_eq, htime, ?_⟩
  rintro rfl
  exact htime.eq.symm

/-- A coloured run that takes three seconds, and an uncoloured one. -/
theorem colors_decorate_demo :
    let plain := run demoEnvironment demoArgs
    let colored := run { demoEnvironment with color := true, elapsed := ⟨3000000000⟩ } demoArgs
    (escByte ∉ plain.output.out ∧ escByte ∉ plain.output.err) ∧ colored.code = plain.code ∧
      SameButTime ⟨0⟩ ⟨3000000000⟩ plain.output (withoutColors colored.output) := by
  have hplain : escByte ∉ (run demoEnvironment demoArgs).output.out ∧
      escByte ∉ (run demoEnvironment demoArgs).output.err := by
    rw [plans_demo.run_eq rfl]
    decide +kernel
  obtain ⟨hcode, -, htime, -⟩ :=
    colors_decorate demoEnvironment demoArgs hplain.1 hplain.2 ⟨3000000000⟩
  exact ⟨hplain, hcode, htime⟩

end Cli

end Golden
