import Golden.Proofs.Cli.Color
import Golden.Proofs.Cli.Grammar

/-!
# Switching colours off

The switch against colours takes effect once the flags have been read: from there on an invocation that
starts out coloured is the uncoloured one (`run_noColor`). The help text is printed before that, and so is
the message about a wrong argument list, and neither looks at the switch (`not_isPlain_usage`,
`not_isPlain_usageError`). Together this says in which invocations the switch keeps colours away
(`noColor_plain_iff`).
-/

namespace Golden

/-! ## Plain outputs -/

/-- Nothing that is printed has an escape byte. -/
def Output.IsPlain (o : Output) : Prop := escByte ∉ o.out ∧ escByte ∉ o.err

instance (o : Output) : Decidable o.IsPlain := inferInstanceAs (Decidable (_ ∧ _))

theorem Output.isPlain_append {a b : Output} : (a ++ b).IsPlain ↔ a.IsPlain ∧ b.IsPlain := by
  simp only [IsPlain, append_def, List.mem_append, not_or]
  exact and_and_and_comm

theorem escByte_mem_paint (inks : List Ink) (s : Bytes) : escByte ∈ paint true inks s := by
  rw [paint, if_pos rfl, List.mem_append]
  exact Or.inr List.mem_cons_self

namespace Console

variable {c : Console}

theorem not_isPlain_error (hc : c.color = true) (message : Bytes) : ¬(c.error message).IsPlain := by
  rintro ⟨-, herr⟩
  refine herr ?_
  rw [error, Console.paint, hc, Output.errorLine]
  simp [escByte_mem_paint]

theorem not_isPlain_helpTitle (hc : c.color = true) (title : Bytes) :
    ¬(c.helpTitle title).IsPlain := by
  rintro ⟨hout, -⟩
  refine hout ?_
  rw [helpTitle, Console.paint, hc, Output.line]
  simp [escByte_mem_paint]

end Console

namespace Cli

variable {c : Console} {env : Environment} {args : List Bytes} {flags : Flags}

/-! ## Before the flags are read -/

/-- The help text begins with its title, which is painted whatever else is asked for. -/
theorem not_isPlain_usage (hc : c.color = true) : ¬(usage c).IsPlain := by
  unfold usage
  simp only [Output.isPlain_append, Console.not_isPlain_helpTitle hc, false_and, not_false_eq_true]

theorem not_isPlain_usageError (hc : c.color = true) (e : FlagFault) : ¬(usageError c e).IsPlain := by
  rw [usageError, Output.isPlain_append]
  exact fun h => Console.not_isPlain_error hc e.text h.1

/-! ## Once the flags are read -/

/-- Colours are switched off iff one of the items of the argument list is the switch. -/
theorem noColor_of_parse (hparse : Flags.parse args = .ok flags) :
    flags.noColor = decide (Item.switch .noColor ∈ Item.read args) := by
  obtain ⟨hall, -⟩ := parse_eq_ok_iff.mp hparse
  obtain ⟨-, hmeaning⟩ := ((spells_read args).addAll_eq_ok_iff {} flags).mp hall
  rw [hmeaning]
  rfl

/-- With colours switched off, it makes no difference whether the output starts out coloured. -/
theorem runFlags_noColor (hflags : flags.noColor = true) (color color' : Bool) :
    runFlags { env with color := color } (consoleOf { env with color := color } flags) flags
      = runFlags { env with color := color' } (consoleOf { env with color := color' } flags) flags := by
  have hconsole (color : Bool) :
      consoleOf { env with color := color } flags = { quiet := flags.quiet } := by
    rw [consoleOf, hflags, Bool.not_true, Bool.and_false]
  rw [hconsole, hconsole]
  rfl

/-- Neither help nor a message about the arguments is what is printed: no help is asked for, and either the
version is or the flags can be read. -/
def GetsPastFlags (args : List Bytes) : Prop :=
  wantsHelp args = false ∧ (wantsVersion args = true ∨ ∃ flags, Flags.parse args = .ok flags)

/-- With the switch among its items, an argument list that gets past the flags leads to the same whether
or not the output starts out coloured. -/
theorem run_noColor (hswitch : Item.switch .noColor ∈ Item.read args) (hpast : GetsPastFlags args)
    (color color' : Bool) :
    run { env with color := color } args = run { env with color := color' } args := by
  obtain ⟨hhelp, hpast⟩ := hpast
  cases hversion : wantsVersion args with
  | true => simp only [run, hhelp, hversion, if_true, Bool.false_eq_true, if_false]
  | false =>
    obtain ⟨flags, hparse⟩ := hpast.resolve_left (by simp [hversion])
    have hflags : flags.noColor = true := by
      rw [noColor_of_parse hparse]
      exact decide_eq_true hswitch
    rw [run_of_parse_ok hhelp hversion _ hparse, run_of_parse_ok hhelp hversion _ hparse]
    exact runFlags_noColor hflags color color'

theorem not_isPlain_run (hc : env.color = true) (hpast : ¬GetsPastFlags args) :
    ¬(run env args).output.IsPlain := by
  cases hhelp : wantsHelp args with
  | true =>
    rw [run, if_pos hhelp]
    exact not_isPlain_usage hc
  | false =>
    have hno := fun h => hpast ⟨hhelp, h⟩
    have hversion : wantsVersion args = false := Bool.eq_false_iff.mpr fun h => hno (Or.inl h)
    cases hparse : Flags.parse args with
    | ok flags => exact absurd (Or.inr ⟨flags, hparse⟩) hno
    | error e =>
      rw [run_of_parse_error hhelp hversion env hparse]
      exact not_isPlain_usageError hc e

/-- Let the switch against colours be one of the items of an argument list, and let what the uncoloured
invocation prints be plain. What the invocation prints that starts out coloured is plain iff it gets past
the flags, and then the two lead to the same. -/
theorem noColor_plain_iff (env : Environment) (args : List Bytes)
    (hswitch : Item.switch .noColor ∈ Item.read args)
    (hplain : (run { env with color := false } args).output.IsPlain) :
    let colored := run { env with color := true } args
    (colored.output.IsPlain ↔ GetsPastFlags args) ∧
      (GetsPastFlags args → colored = run { env with color := false } args) := by
  intro colored
  have hsame : GetsPastFlags args → colored = run { env with color := false } args :=
    fun hpast => run_noColor hswitch hpast true false
  refine ⟨⟨fun hcolored => ?_, fun hpast => ?_⟩, hsame⟩
  · by_contra hpast
    have hcolor : ({ env with color := true } : Environment).color = true := rfl
    exact not_isPlain_run hcolor hpast hcolored
  · rw [hsame hpast]
    exact hplain

/-- The message about a missing directory is plain with the switch and painted without it. -/
theorem noColor_plain_missing_directory :
    Item.switch .noColor ∈ Item.read ["--no-color", "nowhere"] ∧
    (run demoEnvironment ["--no-color", "nowhere"]).output.IsPlain ∧
    GetsPastFlags ["--no-color", "nowhere"] ∧
    (run { demoEnvironment with color := true } ["--no-color", "nowhere"]).output.IsPlain ∧
    ¬(run { demoEnvironment with color := true } ["nowhere"]).output.IsPlain := by
  have hswitch : Item.switch .noColor ∈ Item.read ["--no-color", "nowhere"] := by decide
  have hplain : (run demoEnvironment ["--no-color", "nowhere"]).output.IsPlain := by decide +kernel
  have hpast : GetsPastFlags ["--no-color", "nowhere"] := ⟨rfl, Or.inr ⟨_, rfl⟩⟩
  obtain ⟨hiff, -⟩ := noColor_plain_iff demoEnvironment ["--no-color", "nowhere"] hswitch hplain
  exact ⟨hswitch, hplain, hpast, hiff.mpr hpast, by decide +kernel⟩

/-- The message about a wrong argument list is painted although colours are switched off in front of the
wrong argument, and although it is plain where the output does not start out coloured. -/
theorem noColor_painted :
    Item.switch .noColor ∈ Item.read ["--no-color", "--bogus"] ∧
    (run demoEnvironment ["--no-color", "--bogus"]).output.IsPlain ∧
    ¬(run { demoEnvironment with color := true } ["--no-color", "--bogus"]).output.IsPlain := by
  decide +kernel

end Cli

end Golden
