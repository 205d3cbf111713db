import Golden.Fault
import Mathlib.Tactic.SplitIfs

/-!
# The class of a fault

A fault is made by nesting (`Fault.Making`). Whoever looks at one (asking for its class, for the exit code,
for its text or for the detail in a report) goes down the chain of its layers on his own. They agree all
the same: the first classifying layer on the way down (`Fault.foremost?`) decides the class and the exit
code, whatever stands behind it, and context without a class changes neither
(`Fault.Making.classified_consistently`).
-/

namespace Golden

/-! ## Classes by number -/

namespace FaultKind

theorem ofNumber_inj {m n : Int} : ofNumber m = ofNumber n ↔ m = n := by
  refine ⟨fun h => ?_, fun h => h ▸ rfl⟩
  unfold ofNumber at h
  split_ifs at h <;> first | omega | exact unnamed.inj h

theorem exitCode_eq_configError_iff {k : FaultKind} :
    k.exitCode = .configError ↔ k = .config ∨ k = .validation := by
  cases k <;> simp [exitCode]

theorem exitCode_eq_discoveryError_iff {k : FaultKind} :
    k.exitCode = .discoveryError ↔ k = .discovery := by
  cases k <;> simp [exitCode]

theorem exitCode_ne_success (k : FaultKind) : k.exitCode ≠ .success := by
  cases k <;> simp [exitCode]

end FaultKind

theorem ExitCode.code_inj {a b : ExitCode} : a.code = b.code ↔ a = b := by
  cases a <;> cases b <;> simp [code]

namespace Fault

/-! ## The foremost classifying layer -/

/-- The first classifying layer on the way from the outermost layer inwards. -/
def foremost? (f : Fault) : Option Headline := f.layers.findSome? headline?

theorem outermost?_headline (f : Fault) : f.outermost?.bind headline? = f.foremost? := by
  induction f with
  | within context cause ih =>
    show cause.outermost?.bind headline? = (within context cause :: cause.layers).findSome? headline?
    rw [List.findSome?_cons, ih]
    rfl
  | _ => rfl

theorem kind?_eq (f : Fault) : f.kind? = f.foremost?.map Headline.kind := by
  rw [kind?, outermost?_headline]

theorem isKind_iff {f : Fault} {k : FaultKind} : f.isKind k = true ↔ f.kind? = some k := by
  simp [isKind]

theorem exitCode_eq (f : Fault) : f.exitCode = (f.kind?.map FaultKind.exitCode).getD .failure := by
  unfold exitCode
  cases f.kind? <;> rfl

@[simp] theorem kind?_within (context : Bytes) (f : Fault) : (within context f).kind? = f.kind? := rfl

@[simp] theorem kind?_ofHeadline (head : Headline) (cause : Option Fault) :
    (ofHeadline head cause).kind? = some head.kind := by
  cases cause <;> rfl

/-- Any number of contexts around a fault leave its class as it is. -/
theorem kind?_contexts (contexts : List Bytes) (f : Fault) :
    (contexts.foldr within f).kind? = f.kind? := by
  induction contexts with
  | nil => rfl
  | cons context contexts ih => rwa [List.foldr_cons, kind?_within]

/-! ## Making faults -/

/-- How a fault is made, or that there is none. A classified layer may be put around nothing; a class may
have any number. -/
inductive Making where
  | nothing
  | plain (text : Bytes)
  | field (name message : Bytes)
  | runtime (message : Bytes)
  | config (message : Bytes)
  | discovery (path : Bytes) (cause : Making)
  | execution (fixture : Bytes) (cause : Making)
  | incomplete (fixture message : Bytes)
  | wrap (cause : Making) (message : Bytes)
  | literal (number : Int) (fixture message : Bytes) (cause : Making)
  | within (context : Bytes) (cause : Making)
deriving Repr

namespace Making

/-- The fault that is made. Context around nothing is a text of its own. -/
def fault : Making → Option Fault
  | nothing => none
  | plain text => some (.plain text)
  | field name message => some (.field name message)
  | runtime message => some (.runtime message)
  | config message => some (.config message)
  | discovery path cause => some (.discovery path cause.fault)
  | execution fixture cause => some (.execution fixture cause.fault)
  | incomplete fixture message => some (.incomplete fixture message)
  | wrap cause message => some (.wrap cause.fault message)
  | literal number fixture message cause =>
    some (.ofHeadline ⟨.ofNumber number, fixture, message⟩ cause.fault)
  | within context cause =>
    match cause.fault with
    | some f => some (.within context f)
    | none => some (.plain (context ++ ": %!w(<nil>)"))

/-- The number of the class that was given last, context aside. -/
def number? : Making → Option Int
  | nothing => none
  | plain _ => none
  | field _ _ => none
  | runtime _ => some 0
  | config _ => some 1
  | discovery _ _ => some 3
  | execution _ _ => some 4
  | incomplete _ _ => some 5
  | wrap _ _ => some 0
  | literal number _ _ _ => some number
  | within _ cause => cause.number?

theorem kind?_fault (m : Making) : m.fault.bind kind? = m.number?.map FaultKind.ofNumber := by
  induction m with
  | within context cause ih =>
    rw [number?, ← ih, fault]
    cases cause.fault <;> rfl
  | discovery | execution | wrap | literal => exact kind?_ofHeadline ..
  | _ => rfl

end Making

/-! ## Looking at faults -/

/-- What a fault, or that there is none, says about itself in all ways of looking at it. -/
structure Classification (e : Option Fault) : Prop where
  /-- The class asked for is that of the foremost classifying layer. -/
  foremost : ∀ k, e.any (·.isKind k) = true ↔ (e.bind foremost?).map Headline.kind = some k
  /-- So is the exit code. -/
  exitCode_foremost : ∀ f, e = some f →
    f.exitCode = (f.foremost?.map fun head => head.kind.exitCode).getD .failure
  /-- Context without a class changes neither. -/
  contexts : ∀ f, e = some f → ∀ contexts : List Bytes,
    (∀ k, (contexts.foldr within f).isKind k = f.isKind k) ∧
      (contexts.foldr within f).exitCode = f.exitCode
  /-- Wrapping hides the class. -/
  wrapped : ∀ message, (∀ k, (wrap e message).isKind k = true ↔ k = .runtime) ∧
    (wrap e message).exitCode.code = 1
  /-- No fault has two classes. -/
  unique : ∀ m n : Int, e.any (·.isKind (.ofNumber m)) = true →
    e.any (·.isKind (.ofNumber n)) = true → m = n
  configError : (exitCodeOf e).code = 2
    ↔ e.any (·.isKind .config) = true ∨ e.any (·.isKind .validation) = true
  discoveryError : (exitCodeOf e).code = 3 ↔ e.any (·.isKind .discovery) = true
  success : (exitCodeOf e).code = 0 ↔ e = none
  failure : (exitCodeOf e).code = 1 ↔ e ≠ none ∧ e.any (·.isKind .config) = false ∧
    e.any (·.isKind .validation) = false ∧ e.any (·.isKind .discovery) = false
  /-- The text of a classified fault is its detail behind its fixture, if it has one. -/
  text : ∀ f head, e = some f → f.headline? = some head →
    f.text = (if head.fixture = [] then f.detail else "[" ++ head.fixture ++ "] " ++ f.detail) ∧
      (f.text = f.detail ↔ head.fixture = [])

theorem any_isKind_iff {e : Option Fault} {k : FaultKind} :
    e.any (·.isKind k) = true ↔ e.bind kind? = some k := by
  cases e <;> simp [isKind_iff]

theorem exitCodeOf_eq (e : Option Fault) :
    exitCodeOf e = e.elim .success fun f => (f.kind?.map FaultKind.exitCode).getD .failure := by
  cases e with
  | none => rfl
  | some f => exact exitCode_eq f

theorem exitCodeOf_eq_configError_iff {e : Option Fault} :
    exitCodeOf e = .configError ↔ e.bind kind? = some .config ∨ e.bind kind? = some .validation := by
  rw [exitCodeOf_eq]
  cases e with
  | none => simp
  | some f => cases hk : f.kind? <;> simp [hk, FaultKind.exitCode_eq_configError_iff]

theorem exitCodeOf_eq_discoveryError_iff {e : Option Fault} :
    exitCodeOf e = .discoveryError ↔ e.bind kind? = some .discovery := by
  rw [exitCodeOf_eq]
  cases e with
  | none => simp
  | some f => cases hk : f.kind? <;> simp [hk, FaultKind.exitCode_eq_discoveryError_iff]

theorem exitCodeOf_eq_success_iff {e : Option Fault} : exitCodeOf e = .success ↔ e = none := by
  rw [exitCodeOf_eq]
  cases e with
  | none => simp
  | some f => cases hk : f.kind? <;> simp [hk, FaultKind.exitCode_ne_success]

/-- An exit code is one of four, so the last one is left for whatever is not any of the others. -/
theorem exitCodeOf_eq_failure_iff {e : Option Fault} :
    exitCodeOf e = .failure
      ↔ exitCodeOf e ≠ .success ∧ exitCodeOf e ≠ .configError ∧ exitCodeOf e ≠ .discoveryError := by
  cases exitCodeOf e <;> simp

theorem text_of_headline {f : Fault} {head : Headline} (h : f.headline? = some head) :
    f.text = withFixture head.fixture f.detail := by
  cases f with
  | classified _ | classifiedBy _ _ =>
    obtain rfl := Option.some.inj h
    rfl
  | _ => cases h

theorem withFixture_eq (fixture s : Bytes) :
    withFixture fixture s = if fixture = [] then s else "[" ++ fixture ++ "] " ++ s := by
  cases fixture <;> rfl

theorem withFixture_eq_self_iff {fixture s : Bytes} : withFixture fixture s = s ↔ fixture = [] := by
  constructor
  · intro h
    rw [withFixture_eq] at h
    split_ifs at h with hfixture
    · exact hfixture
    · have hlength := congrArg List.length h
      simp only [List.length_append] at hlength
      have hbracket : (utf8 "[").length = 1 := rfl
      omega
  · rintro rfl
    rfl

theorem classification (e : Option Fault) : Classification e where
  foremost k := by
    rw [any_isKind_iff]
    cases e with
    | none => simp
    | some f => simp [kind?_eq]
  exitCode_foremost f _ := by
    rw [exitCode_eq, kind?_eq, Option.map_map]
    rfl
  contexts f _ contexts := by
    have hkind := kind?_contexts contexts f
    refine ⟨fun k => ?_, ?_⟩
    · rw [isKind, isKind, hkind]
    · rw [exitCode, exitCode, hkind]
  wrapped message := by
    have hkind : (wrap e message).kind? = some .runtime := kind?_ofHeadline ..
    refine ⟨fun k => ?_, ?_⟩
    · rw [isKind_iff, hkind, Option.some_inj, eq_comm]
    · rw [exitCode, hkind]
      rfl
  unique m n hm hn := by
    rw [any_isKind_iff] at hm hn
    exact FaultKind.ofNumber_inj.mp (Option.some.inj (hm.symm.trans hn))
  configError := by
    rw [any_isKind_iff, any_isKind_iff, ← exitCodeOf_eq_configError_iff]
    exact ExitCode.code_inj (b := .configError)
  discoveryError := by
    rw [any_isKind_iff, ← exitCodeOf_eq_discoveryError_iff]
    exact ExitCode.code_inj (b := .discoveryError)
  success := by
    rw [← exitCodeOf_eq_success_iff]
    exact ExitCode.code_inj (b := .success)
  failure := by
    have hcode : (exitCodeOf e).code = 1 ↔ exitCodeOf e = .failure := ExitCode.code_inj (b := .failure)
    rw [hcode, exitCodeOf_eq_failure_iff, ne_eq, ne_eq, ne_eq, exitCodeOf_eq_success_iff,
      exitCodeOf_eq_configError_iff, exitCodeOf_eq_discoveryError_iff, not_or]
    simp only [← any_isKind_iff, Bool.not_eq_true, and_assoc, ne_eq]
  text f head _ hhead := by
    rw [text_of_headline hhead]
    exact ⟨withFixture_eq _ _, withFixture_eq_self_iff⟩

/-- However a fault is made, it has the class that was given last, and no way of looking at it says
otherwise. -/
theorem Making.classified_consistently (m : Making) :
    (∀ n, m.fault.any (·.isKind (.ofNumber n)) = true ↔ m.number? = some n) ∧
      Classification m.fault := by
  refine ⟨fun n => ?_, Fault.classification m.fault⟩
  rw [any_isKind_iff, m.kind?_fault, Option.map_eq_some_iff]
  constructor
  · rintro ⟨k, hk, hnumber⟩
    rw [hk, FaultKind.ofNumber_inj.mp hnumber]
  · intro h
    exact ⟨n, h, rfl⟩

end Fault

end Golden
