import Golden.Config.Schema
import Golden.Config.Validate
import Golden.Run.Options

/-!
# Valid configurations

`Config.validate` makes its checks one after the other and reports the first that fails. Which
configurations pass does not depend on the order: those in which every field is valid by itself
(`validate_eq_ok_iff`). The check of the extension says again what the pattern in the schema does
(`checkExtension_eq_ok_iff`).
-/

namespace Golden.Config

/-- Every field of the configuration is valid. -/
structure Valid (c : Config) : Prop where
  runner : c.hasRunner = true
  extension : checkExtension c.extension = .ok ()
  inputMode : c.inputMode = inlineInput ∨ c.inputMode = fileInput
  mode : c.mode = strict ∨ c.mode = lenient
  incomplete : c.incomplete = skipIncomplete ∨ c.incomplete = failIncomplete
  jobs : 0 ≤ c.jobs ∧ c.jobs ≤ maxJobs
  timeout : ∃ d, parseTimeout c.timeout = .ok d

section Guards

variable {α β : Type}

theorem bind_eq_ok {x : Except ConfigIssue α} {f : α → Except ConfigIssue β} {b : β} :
    (x >>= f) = .ok b ↔ ∃ a, x = .ok a ∧ f a = .ok b := by
  cases x with
  | error e => simp [bind, Except.bind]
  | ok a => simp [bind, Except.bind]

/-- A check that refuses, in front of the others. -/
theorem guard_eq_ok {p : Bool} {issue : ConfigIssue} {rest : Unit → Except ConfigIssue β} {b : β} :
    (if p then (throw issue : Except ConfigIssue Unit) >>= rest else rest ()) = .ok b
      ↔ p = false ∧ rest () = .ok b := by
  cases p <;> simp [bind, Except.bind, throw, throwThe, MonadExceptOf.throw]

end Guards

theorem bne_and_bne {a x y : Bytes} : (a != x && a != y) = false ↔ a = x ∨ a = y := by
  by_cases h : a = x <;> simp [h]

/-- Validation accepts exactly the configurations whose fields are all valid. -/
theorem validate_eq_ok_iff {c : Config} : c.validate = .ok () ↔ c.Valid := by
  unfold validate
  simp only [guard_eq_ok, bind_eq_ok, bne_and_bne]
  constructor
  · rintro ⟨hrunner, ⟨⟩, hext, hinput, hmode, hinc, hjobs, d, hd, -⟩
    refine ⟨by simpa using hrunner, hext, hinput, hmode, hinc, ?_, d, hd⟩
    simp only [Bool.or_eq_false_iff, decide_eq_false_iff_not] at hjobs
    omega
  · rintro ⟨hrunner, hext, hinput, hmode, hinc, hjobs, d, hd⟩
    refine ⟨by simpa using hrunner, (), hext, hinput, hmode, hinc, ?_, d, hd, rfl⟩
    simp only [Bool.or_eq_false_iff, decide_eq_false_iff_not]
    omega

/-- A valid configuration gives the options of a run. -/
theorem Valid.options {c : Config} (h : c.Valid) : ∃ o, RunOptions.ofConfig c = .ok o := by
  obtain ⟨d, hd⟩ := h.timeout
  exact ⟨_, by rw [RunOptions.ofConfig, hd]⟩

/-! ## Extensions -/

/-- The check of the form refuses what does not match the pattern. -/
theorem shape_check_eq (e : Bytes) :
    (decide (e.length < 2) || e.head? != some 0x2e || (e.drop 1).any isExtensionBreaker)
      = !Schema.matchesExtension e := by
  match e with
  | [] => rfl
  | [b] => simp [Schema.matchesExtension]
  | b :: c :: name =>
    have hname : (c :: name).all (fun c => !(c == '.' || c == '/' || c == '\\'))
        = !(c :: name).any isExtensionBreaker := by
      rw [List.not_any_eq_all_not]
      rfl
    have hdot : ((b :: c :: name).head? != some 0x2e) = !(b == '.') := rfl
    have hlength : decide ((b :: c :: name).length < 2) = false := rfl
    rw [Schema.matchesExtension, hname, hdot, hlength]
    simp only [List.drop_succ_cons, List.drop_zero, List.isEmpty_cons, Bool.not_false, Bool.and_true,
      Bool.false_or, Bool.not_and, Bool.not_not]

/-- The check of an extension accepts what the pattern does, but for the extensions of the other
roles. -/
theorem checkExtension_eq_ok_iff {e : Bytes} :
    checkExtension e = .ok () ↔
      Schema.matchesExtension e = true ∧ e ≠ inputExtension ∧ e ≠ expectedExtension := by
  unfold checkExtension
  rw [shape_check_eq]
  by_cases hshape : Schema.matchesExtension e = true
  · simp [hshape]
  · simp [hshape]

end Golden.Config
