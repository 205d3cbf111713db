import Golden.Proofs.Config.Validity

/-!
# Settings, field by field

A configuration is read here as a map from fields to settings. An empty setting stands for one that is
not given, so configurations are put over each other with `Setting.given?`: the defaults fill what is
not given (`Config.get_withDefaults`).

Validity is a matter of single settings as well (`Config.valid_iff`). Whatever is put over a valid
configuration is therefore judged by itself (`Config.Valid.over_iff`).
-/

namespace Golden

/-- The value of a field. -/
inductive Setting where
  | text (s : Bytes)
  | texts (ss : List Bytes)
  | number (i : Int)
deriving DecidableEq, Repr

namespace Setting

/-- Is nothing set? -/
def isEmpty : Setting → Bool
  | .text s => s.isEmpty
  | .texts ss => ss.isEmpty
  | .number i => i = 0

/-- The setting, unless it is empty. -/
def given? (x : Setting) : Option Setting := if x.isEmpty then none else some x

theorem given?_text {s : Bytes} (h : s ≠ []) : (text s).given? = some (text s) := by
  cases s with
  | nil => exact absurd rfl h
  | cons b s => rfl

@[simp] theorem given?_texts_nil : (texts []).given? = none := rfl

@[simp] theorem given?_texts_cons (s : Bytes) (ss : List Bytes) :
    (texts (s :: ss)).given? = some (texts (s :: ss)) := rfl

theorem given?_eq_some_iff {x y : Setting} : x.given? = some y ↔ x = y ∧ x.isEmpty = false := by
  unfold given?
  cases x.isEmpty <;> simp

/-- A text put over another. -/
theorem text_orDefault (s d : Bytes) :
    text (Config.orDefault s d) = (text s).given?.getD (text d) := by
  cases s <;> rfl

end Setting

/-! ## The settings of a configuration -/

namespace Config

/-- The setting of a field. -/
def get (c : Config) : Field → Setting
  | .directory => .text c.directory
  | .runner => .texts c.runner
  | .extension => .text c.extension
  | .inputMode => .text c.inputMode
  | .inlineInputFlag => .text c.inlineInputFlag
  | .fileInputFlag => .text c.fileInputFlag
  | .extraArgs => .texts c.extraArgs
  | .mode => .text c.mode
  | .jobs => .number c.jobs
  | .timeout => .text c.timeout
  | .incomplete => .text c.incomplete

/-- Defaults are filled in field by field, where nothing is given. -/
theorem get_withDefaults (c : Config) (f : Field) :
    c.withDefaults.get f = (c.get f).given?.getD (default.get f) := by
  cases f with
  | runner => cases hrunner : c.runner <;> simp [get, withDefaults, default, hrunner]
  | extraArgs => cases hargs : c.extraArgs <;> simp [get, withDefaults, default, hargs]
  | jobs =>
    by_cases hjobs : c.jobs = 0
    · simp [get, withDefaults, default, Setting.given?, Setting.isEmpty, hjobs]
    · simp [get, withDefaults, Setting.given?, Setting.isEmpty, hjobs]
  | _ => exact Setting.text_orDefault _ _

end Config

/-! ## Valid settings -/

/-- Is the setting valid for the field? -/
def Field.Permits (f : Field) (x : Setting) : Prop :=
  match f, x with
  | .runner, .texts ss => ∃ w ws, ss = w :: ws ∧ isBlank w = false
  | .extension, .text s => checkExtension s = .ok ()
  | .inputMode, .text s => s = Config.inlineInput ∨ s = Config.fileInput
  | .mode, .text s => s = Config.strict ∨ s = Config.lenient
  | .incomplete, .text s => s = Config.skipIncomplete ∨ s = Config.failIncomplete
  | .jobs, .number i => 0 ≤ i ∧ i ≤ Config.maxJobs
  | .timeout, .text s => ∃ d, parseTimeout s = .ok d
  | _, _ => True

namespace Config

theorem hasRunner_iff {c : Config} :
    c.hasRunner = true ↔ ∃ w ws, c.runner = w :: ws ∧ isBlank w = false := by
  unfold hasRunner
  cases c.runner with
  | nil => simp
  | cons w ws => simp

/-- A configuration is valid iff each of its settings is. -/
theorem valid_iff {c : Config} : c.Valid ↔ ∀ f : Field, f.Permits (c.get f) := by
  constructor
  · intro h f
    cases f with
    | runner => exact hasRunner_iff.mp h.runner
    | extension => exact h.extension
    | inputMode => exact h.inputMode
    | mode => exact h.mode
    | incomplete => exact h.incomplete
    | jobs => exact h.jobs
    | timeout => exact h.timeout
    | directory | inlineInputFlag | fileInputFlag | extraArgs => trivial
  · intro h
    exact {
      runner := hasRunner_iff.mpr (h .runner)
      extension := h .extension
      inputMode := h .inputMode
      mode := h .mode
      incomplete := h .incomplete
      jobs := h .jobs
      timeout := h .timeout }

/-- Settings that are put over a valid configuration give a valid one iff each of them is valid by
itself. -/
theorem Valid.over_iff {base c : Config} (hbase : base.Valid) {given : Field → Option Setting}
    (hc : ∀ f, f ≠ .extraArgs → c.get f = (given f).getD (base.get f)) :
    c.Valid ↔ ∀ (f : Field) (x : Setting), f ≠ .extraArgs → given f = some x → f.Permits x := by
  rw [valid_iff] at hbase ⊢
  constructor
  · intro h f x hf hx
    have hpermits := h f
    rw [hc f hf, hx] at hpermits
    exact hpermits
  · intro h f
    by_cases hf : f = .extraArgs
    · rw [hf]
      trivial
    · rw [hc f hf]
      cases hx : given f with
      | none => exact hbase f
      | some x => exact h f x hf hx

theorem default_valid : default.Valid := by
  rw [← validate_eq_ok_iff]
  rfl

end Config

end Golden
