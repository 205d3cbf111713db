import Golden.Proofs.Cli.Grammar
import Golden.Proofs.Cli.Refusal
import Golden.Proofs.Config.Acceptance

/-!
# Settings from three sources

The configuration of a run is put together from flags, a configuration file and the defaults. Each
field has the setting of the first of them that gives one; only the words for the interpreter are added
up (`Layered`). Flags are judged one by one and by themselves: no field of the file and none that is not
given can make them unusable (`applyFlags_layers`).

That nothing more is needed rests on what flags can be at all: a mode that is given by a switch is a
mode, and a command that is given has a first word (`Flags.WellSpelled`).
-/

namespace Golden.Cli

/-! ## Flags as settings -/

namespace Flags

/-- The setting that flags give to a field. An empty text gives none. -/
def given? (o : Flags) : Field → Option Setting
  | .directory => (Setting.text (o.directory.getD [])).given?
  | .runner => o.runner.map .texts
  | .extension => (Setting.text o.extension).given?
  | .inputMode => (Setting.text o.inputMode).given?
  | .mode => (Setting.text o.mode).given?
  | .jobs => (readInt64? o.jobs).map .number
  | .timeout => (Setting.text o.timeout).given?
  | .incomplete => (Setting.text o.incomplete).given?
  | .inlineInputFlag | .fileInputFlag | .extraArgs => none

/-- Every flag that is given is valid by itself. -/
structure EachValid (o : Flags) : Prop where
  jobs : o.jobs ≠ [] → ∃ n, readInt64? o.jobs = some n ∧ 0 ≤ n ∧ n ≤ 256
  extension : o.extension ≠ [] → checkExtension o.extension = .ok ()
  inputMode : o.inputMode ≠ [] → o.inputMode = Config.inlineInput ∨ o.inputMode = Config.fileInput
  timeout : o.timeout ≠ [] → ∃ d, parseTimeout o.timeout = .ok d
  incomplete : o.incomplete ≠ [] →
    o.incomplete = Config.skipIncomplete ∨ o.incomplete = Config.failIncomplete

/-! ## What flags can be -/

/-- A mode that is given is one of the two, and no word of a command is blank. -/
structure WellSpelled (o : Flags) : Prop where
  mode : o.mode ≠ [] → o.mode = Config.strict ∨ o.mode = Config.lenient
  runner : ∀ words, o.runner = some words → ∀ w ∈ words, isBlank w = false

variable {o o' : Flags}

theorem WellSpelled.switch (h : o.WellSpelled) (s : Switch) : (o.switch s).WellSpelled := by
  cases s with
  | strict => exact ⟨fun _ => Or.inl rfl, h.runner⟩
  | lenient => exact ⟨fun _ => Or.inr rfl, h.runner⟩
  | quiet | verbose | noColor => exact ⟨h.mode, h.runner⟩

theorem WellSpelled.set (h : o.WellSpelled) (v : Bytes) (f : ValueFlag) : (o.set v f).WellSpelled := by
  cases f with
  | runner =>
    refine ⟨h.mode, ?_⟩
    rintro words ⟨⟩ w hw
    exact fields_not_blank hw
  | extension | input | jobs | timeout | config | incomplete => exact ⟨h.mode, h.runner⟩

/-- Every item leaves flags that are well spelled. -/
theorem WellSpelled.add (h : o.WellSpelled) {i : Item} (hadd : o.add i = .ok o') :
    o'.WellSpelled := by
  cases i with
  | switch s =>
    cases hadd
    exact h.switch s
  | value f name v =>
    cases v with
    | none => cases hadd
    | some v =>
      rw [Flags.add] at hadd
      split at hadd
      · cases hadd
      · cases hadd
        exact h.set v f
  | word w =>
    rw [Flags.add] at hadd
    split at hadd
    · split at hadd
      · cases hadd
      · cases hadd
        exact ⟨h.mode, h.runner⟩
    · cases hadd
      exact ⟨h.mode, h.runner⟩
  | rest args =>
    cases hadd
    exact ⟨h.mode, h.runner⟩

theorem WellSpelled.addAll (h : o.WellSpelled) {items : List Item}
    (hadd : o.addAll items = .ok o') : o'.WellSpelled := by
  induction items generalizing o with
  | nil =>
    cases hadd
    exact h
  | cons i items ih =>
    rw [Flags.addAll] at hadd
    split at hadd
    · rename_i o₁ hstep
      exact ih (h.add hstep) hadd
    · cases hadd

/-- The flags of an argument list are well spelled, and a command that is given is not empty. -/
theorem parse_wellSpelled {args : List Bytes} (h : parse args = .ok o) :
    o.WellSpelled ∧ o.runner ≠ some [] := by
  unfold parse at h
  split at h
  · rename_i o₁ hadd
    obtain ⟨-, hrunner, rfl⟩ := check_eq_ok_iff.mp h
    have hnone : WellSpelled {} := ⟨fun hne => absurd rfl hne, fun _ hwords => nomatch hwords⟩
    exact ⟨hnone.addAll hadd, hrunner⟩
  · cases h

end Flags

/-! ## Flags over a configuration -/

variable {t : Tree} {console : Console} {named : Bytes} {args : List Bytes} {flags : Flags}
  {config : Config} {jobs : Int}

theorem jobsOf_eq_ok_iff {text : Bytes} {configured : Int} :
    jobsOf text configured = .ok jobs ↔
      if text = [] then jobs = configured else readInt64? text = some jobs := by
  unfold jobsOf
  cases text with
  | nil => simp [eq_comm]
  | cons b s => cases readInt64? (b :: s) <;> simp

/-- Flags are put over a configuration field by field, where they give something. -/
theorem get_override (hjobs : jobsOf flags.jobs config.jobs = .ok jobs) {f : Field}
    (hf : f ≠ .extraArgs) :
    (override config flags jobs).get f = (flags.given? f).getD (config.get f) := by
  cases f with
  | extraArgs => exact absurd rfl hf
  | inlineInputFlag | fileInputFlag => rfl
  | runner => cases hrunner : flags.runner <;> simp [override, Config.get, Flags.given?, hrunner]
  | jobs =>
    rw [jobsOf_eq_ok_iff] at hjobs
    show Setting.number jobs = ((readInt64? flags.jobs).map Setting.number).getD (.number config.jobs)
    split at hjobs
    · rename_i hnone
      rw [hnone, hjobs]
      rfl
    · rw [hjobs]
      rfl
  | directory | extension | inputMode | mode | timeout | incomplete =>
    exact Setting.text_orDefault _ _

theorem given_text_iff {s : Bytes} {P : Setting → Prop} :
    (∀ x, (Setting.text s).given? = some x → P x) ↔ (s ≠ [] → P (.text s)) := by
  constructor
  · intro h hne
    exact h _ (Setting.given?_text hne)
  · intro h x hx
    obtain ⟨rfl, hnonempty⟩ := Setting.given?_eq_some_iff.mp hx
    refine h ?_
    rintro rfl
    cases hnonempty

/-- Flags that are well spelled are valid settings, and their number of jobs can be read, iff each is
valid by itself. -/
theorem Flags.eachValid_iff (config : Config) (hspelled : flags.WellSpelled)
    (hrunner : flags.runner ≠ some []) :
    ((∃ jobs, jobsOf flags.jobs config.jobs = .ok jobs) ∧
      ∀ (f : Field) (x : Setting), f ≠ .extraArgs → flags.given? f = some x → f.Permits x) ↔
      flags.EachValid := by
  constructor
  · rintro ⟨⟨jobs, hjobs⟩, hpermits⟩
    refine ⟨?_, given_text_iff.mp fun x => hpermits .extension x nofun,
      given_text_iff.mp fun x => hpermits .inputMode x nofun,
      given_text_iff.mp fun x => hpermits .timeout x nofun,
      given_text_iff.mp fun x => hpermits .incomplete x nofun⟩
    intro hne
    rw [jobsOf_eq_ok_iff, if_neg hne] at hjobs
    exact ⟨jobs, hjobs, hpermits .jobs (.number jobs) nofun (by rw [Flags.given?, hjobs]; rfl)⟩
  · intro h
    constructor
    · by_cases hne : flags.jobs = []
      · exact ⟨config.jobs, jobsOf_eq_ok_iff.mpr (by rw [if_pos hne])⟩
      · obtain ⟨n, hread, -⟩ := h.jobs hne
        exact ⟨n, jobsOf_eq_ok_iff.mpr (by rw [if_neg hne]; exact hread)⟩
    · intro f x hf hx
      cases f with
      | extraArgs => exact absurd rfl hf
      | inlineInputFlag | fileInputFlag => cases hx
      | directory => cases x <;> trivial
      | extension => exact given_text_iff.mpr h.extension x hx
      | inputMode => exact given_text_iff.mpr h.inputMode x hx
      | mode => exact given_text_iff.mpr hspelled.mode x hx
      | timeout => exact given_text_iff.mpr h.timeout x hx
      | incomplete => exact given_text_iff.mpr h.incomplete x hx
      | runner =>
        obtain ⟨words, hwords, rfl⟩ := Option.map_eq_some_iff.mp hx
        cases words with
        | nil => exact absurd hwords hrunner
        | cons w ws => exact ⟨w, ws, rfl, hspelled.runner _ hwords w List.mem_cons_self⟩
      | jobs =>
        obtain ⟨n, hread, rfl⟩ := Option.map_eq_some_iff.mp hx
        have hne : flags.jobs ≠ [] := by
          intro hnil
          rw [hnil] at hread
          cases hread
        obtain ⟨n', hread', hrange⟩ := h.jobs hne
        obtain rfl := Option.some.inj (hread.symm.trans hread')
        exact hrange

/-! ## Three sources -/

/-- What the configuration file sets; without a file nothing is set. -/
def FileSets (t : Tree) (named : Bytes) (file : Config) : Prop :=
  match configPath? t named with
  | none => file = {}
  | some path => Config.load t path = .ok file

/-- Every field has the setting of the first source that gives one, flags before file before defaults.
Only the words for the interpreter are those of both. -/
structure Layered (flags : Flags) (file c : Config) : Prop where
  fields : ∀ f : Field, f ≠ .extraArgs →
    c.get f = ((flags.given? f).or (file.get f).given?).getD (Config.default.get f)
  extraArgs : c.extraArgs = file.extraArgs ++ flags.extraArgs

/-- A configuration to start from is valid and is what the file sets, filled up with defaults. -/
theorem StartsFrom.fileSets (h : StartsFrom t named config) :
    config.Valid ∧ ∃ file, FileSets t named file ∧ config = file.withDefaults := by
  unfold StartsFrom at h
  unfold FileSets
  cases hpath : configPath? t named with
  | none =>
    rw [hpath] at h
    dsimp only at h ⊢
    exact ⟨h ▸ Config.default_valid, {}, rfl, h⟩
  | some path =>
    rw [hpath] at h
    exact ⟨Config.validate_eq_ok_iff.mp (Config.Gives.validate h), Config.Gives.load h⟩

theorem applyFlags_eq_ok_iff {c : Config} :
    applyFlags config flags = .ok c ↔
      ∃ jobs, jobsOf flags.jobs config.jobs = .ok jobs ∧ c = override config flags jobs ∧ c.Valid := by
  constructor
  · intro h
    obtain ⟨jobs, hjobs, rfl, hvalid⟩ := applyFlags_eq_ok h
    exact ⟨jobs, hjobs, rfl, hvalid⟩
  · rintro ⟨jobs, hjobs, rfl, hvalid⟩
    simp only [applyFlags, hjobs, Config.validate_eq_ok_iff.mpr hvalid]

theorem layered_override {file : Config} (hjobs : jobsOf flags.jobs file.withDefaults.jobs = .ok jobs) :
    Layered flags file (override file.withDefaults flags jobs) := by
  refine ⟨fun f hf => ?_, rfl⟩
  rw [get_override hjobs hf, Config.get_withDefaults]
  cases flags.given? f <;> rfl

/-- Over a valid configuration flags are accepted iff each is valid by itself. -/
theorem applyFlags_accepts_iff (hconfig : config.Valid) (hspelled : flags.WellSpelled)
    (hrunner : flags.runner ≠ some []) :
    (∃ c, applyFlags config flags = .ok c) ↔ flags.EachValid := by
  rw [← Flags.eachValid_iff config hspelled hrunner]
  constructor
  · rintro ⟨c, hc⟩
    obtain ⟨jobs, hjobs, rfl, hvalid⟩ := applyFlags_eq_ok_iff.mp hc
    exact ⟨⟨jobs, hjobs⟩, (hconfig.over_iff fun f hf => get_override hjobs hf).mp hvalid⟩
  · rintro ⟨⟨jobs, hjobs⟩, hpermits⟩
    have hvalid := (hconfig.over_iff fun f hf => get_override hjobs hf).mpr hpermits
    exact ⟨_, applyFlags_eq_ok_iff.mpr ⟨jobs, hjobs, rfl, hvalid⟩⟩

/-- Flags are accepted iff each of those that are given is valid by itself, whatever they are put over;
otherwise the exit code is two. What comes out has every field from the first source that gives it, and
the flags of inputs are never changed. -/
theorem applyFlags_layers (hload : (loadConfig t console named).result = .ok config)
    (hparse : Flags.parse args = .ok flags) :
    ((∃ c, applyFlags config flags = .ok c) ↔ flags.EachValid) ∧
    (∀ e, applyFlags config flags = .error e → e.exitCode.code = 2) ∧
    ∃ file, FileSets t named file ∧
      ∀ c, applyFlags config flags = .ok c →
        Layered flags file c ∧ c.inlineInputFlag = config.inlineInputFlag ∧
          c.fileInputFlag = config.fileInputFlag := by
  obtain ⟨hvalid, file, hfile, rfl⟩ := ((loadConfig_eq_ok_iff console).mp hload).fileSets
  obtain ⟨hspelled, hrunner⟩ := Flags.parse_wellSpelled hparse
  refine ⟨applyFlags_accepts_iff hvalid hspelled hrunner, ?_, file, hfile, ?_⟩
  · intro e he
    rw [applyFlags_exitCode he]
    rfl
  · intro c hc
    obtain ⟨jobs, hjobs, rfl, -⟩ := applyFlags_eq_ok_iff.mp hc
    exact ⟨layered_override hjobs, rfl, rfl⟩

theorem readAsJson_lenientTree :
    Config.readAsJson Config.lenientTree "run.json" = .ok Config.lenientText := by
  decide +kernel

theorem decode_lenientText : Config.decode Config.lenientText = .ok { mode := Config.lenient } := by
  decide +kernel

theorem loadConfig_lenientTree :
    (loadConfig Config.lenientTree {} "run.json").result
      = .ok { Config.default with mode := Config.lenient } := by
  have hschema : Schema.validate Config.lenientText = .ok () := by decide +kernel
  rw [loadConfig_eq_ok_iff]
  exact ⟨_, _, readAsJson_lenientTree, hschema, decode_lenientText, rfl, rfl⟩

/-- Flags that give zero for the time limit and for the number of jobs. -/
def zeroFlags : Flags where
  directory := some "cases"
  jobs := "0"
  timeout := "0"
  runner := some ["fake-interp", "-q"]
  extraArgs := ["x"]

theorem zeroFlags_eachValid : zeroFlags.EachValid where
  jobs := fun _ => ⟨0, by decide +kernel, by decide, by decide⟩
  extension := fun hne => absurd rfl hne
  inputMode := fun hne => absurd rfl hne
  timeout := fun _ => ⟨⟨0⟩, by decide +kernel⟩
  incomplete := fun hne => absurd rfl hne

/-- Zeros on the command line, over a file that sets the mode. -/
theorem applyFlags_over_lenientTree :
    ∃ c, Flags.parse ["cases", "-j", "0", "--timeout=0", "--runner", "fake-interp -q", "--", "x"]
        = .ok zeroFlags ∧
      applyFlags { Config.default with mode := Config.lenient } zeroFlags = .ok c ∧
      c.get .mode = .text Config.lenient ∧ c.get .timeout = .text "0" ∧ c.get .jobs = .number 0 ∧
      c.get .runner = .texts ["fake-interp", "-q"] ∧ c.get .incomplete = .text Config.skipIncomplete ∧
      c.extraArgs = ["x"] := by
  have hparse : Flags.parse
      ["cases", "-j", "0", "--timeout=0", "--runner", "fake-interp -q", "--", "x"] = .ok zeroFlags := by
    decide +kernel
  obtain ⟨hiff, -, file, hfile, hlayers⟩ := applyFlags_layers loadConfig_lenientTree hparse
  obtain ⟨c, hc⟩ := hiff.mpr zeroFlags_eachValid
  obtain ⟨⟨hfields, hextra⟩, -⟩ := hlayers c hc
  have hset : file = { mode := Config.lenient } := by
    have hload : Config.load Config.lenientTree "run.json" = .ok file := hfile
    rw [Config.load, readAsJson_lenientTree] at hload
    exact Except.ok.inj (hload.symm.trans decode_lenientText)
  subst hset
  refine ⟨c, hparse, hc, ?_, ?_, ?_, ?_, ?_, ?_⟩
  · exact hfields .mode (by decide)
  · exact hfields .timeout (by decide)
  · exact hfields .jobs (by decide)
  · exact hfields .runner (by decide)
  · exact hfields .incomplete (by decide)
  · exact hextra

end Golden.Cli
