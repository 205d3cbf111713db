import Golden.Text.Bytes

/-!
# Faults

What can go wrong is reported as a chain: a leaf says what happened, and every layer around it adds
context. Some layers classify the fault; the outermost of them decides the exit code of the program
(`exitCode`), the kind a caller can ask for (`isKind`) and the text shown in a case report
(`detail`). Layers without a class only add text, so they never change the classification.
-/

namespace Golden

/-- Exit codes of the program. -/
inductive ExitCode where
  /-- Every fixture passed. -/
  | success
  /-- A fixture failed, or the run could not be completed. -/
  | failure
  /-- The command line or the configuration is wrong. -/
  | configError
  /-- The test cases cannot be read. -/
  | discoveryError
deriving DecidableEq, Repr, Inhabited

/-- The number given to the operating system. -/
def ExitCode.code : ExitCode → Nat
  | .success => 0
  | .failure => 1
  | .configError => 2
  | .discoveryError => 3

/-- Classes of faults. A class outside the six named ones is known by its number only. -/
inductive FaultKind where
  | runtime
  | config
  | validation
  | discovery
  | execution
  | incomplete
  | unnamed (number : Int)
deriving DecidableEq, Repr

namespace FaultKind

/-- The class with a given number. -/
def ofNumber (n : Int) : FaultKind :=
  if n = 0 then .runtime
  else if n = 1 then .config
  else if n = 2 then .validation
  else if n = 3 then .discovery
  else if n = 4 then .execution
  else if n = 5 then .incomplete
  else .unnamed n

/-- A short name for the class. -/
def name : FaultKind → Bytes
  | .runtime => "runtime"
  | .config => "config"
  | .validation => "validation"
  | .discovery => "discovery"
  | .execution => "execution"
  | .incomplete => "incomplete"
  | .unnamed _ => "runtime"

/-- The exit code a fault of this class leads to. -/
def exitCode : FaultKind → ExitCode
  | .config => .configError
  | .validation => .configError
  | .discovery => .discoveryError
  | _ => .failure

/-- The six named classes. -/
def named : List FaultKind :=
  [.runtime, .config, .validation, .discovery, .execution, .incomplete]

end FaultKind

/-- A classifying layer: what happened, and the fixture it happened to unless that is empty. -/
structure Headline where
  kind : FaultKind
  fixture : Bytes
  message : Bytes
deriving DecidableEq, Repr

/-- A chain of faults, outermost layer first. -/
inductive Fault where
  /-- A text with nothing behind it. -/
  | plain (text : Bytes)
  /-- A configuration field with an unacceptable value. -/
  | field (name message : Bytes)
  /-- A document that violates the configuration schema. -/
  | schema (text : Bytes)
  /-- Context without a class. -/
  | within (context : Bytes) (cause : Fault)
  /-- A classified fault with nothing behind it. -/
  | classified (head : Headline)
  /-- A classified fault with a cause. -/
  | classifiedBy (head : Headline) (cause : Fault)
deriving DecidableEq, Repr

namespace Fault

/-! ## Making faults -/

/-- A classified fault with or without a cause. -/
def ofHeadline (head : Headline) : Option Fault → Fault
  | none => .classified head
  | some cause => .classifiedBy head cause

/-- A fault of the running program. -/
def runtime (message : Bytes) : Fault := .classified ⟨.runtime, [], message⟩

/-- A fault in the configuration. -/
def config (message : Bytes) : Fault := .classified ⟨.config, [], message⟩

/-- Test cases that cannot be read. -/
def discovery (path : Bytes) (cause : Option Fault) : Fault :=
  ofHeadline ⟨.discovery, [], "cannot read test cases from " ++ path⟩ cause

/-- An interpreter that could not be run for a fixture. -/
def execution (fixture : Bytes) (cause : Option Fault) : Fault :=
  ofHeadline ⟨.execution, fixture, "interpreter could not be run"⟩ cause

/-- A fixture that lacks required files. -/
def incomplete (fixture message : Bytes) : Fault := .classified ⟨.incomplete, fixture, message⟩

/-- Adds context and makes the whole a fault of the running program. -/
def wrap (cause : Option Fault) (message : Bytes) : Fault :=
  ofHeadline ⟨.runtime, [], message⟩ cause

/-! ## Looking at faults -/

/-- Puts the fixture in brackets in front of a text, if there is a fixture. -/
def withFixture (fixture text : Bytes) : Bytes :=
  if fixture.isEmpty then text else "[" ++ fixture ++ "] " ++ text

/-- The full text of the chain. -/
def text : Fault → Bytes
  | .plain t => t
  | .field name message => name ++ ": " ++ message
  | .schema t => t
  | .within context cause => context ++ ": " ++ cause.text
  | .classified head => withFixture head.fixture head.message
  | .classifiedBy head cause => withFixture head.fixture (head.message ++ ": " ++ cause.text)

/-- The layer behind this one. -/
def cause? : Fault → Option Fault
  | .within _ cause => some cause
  | .classifiedBy _ cause => some cause
  | _ => none

/-- The classifying layer at the head of the chain, if the head classifies. -/
def headline? : Fault → Option Headline
  | .classified head => some head
  | .classifiedBy head _ => some head
  | _ => none

/-- The layers of the chain, outermost first. -/
def layers : Fault → List Fault
  | .within context cause => .within context cause :: cause.layers
  | .classifiedBy head cause => .classifiedBy head cause :: cause.layers
  | f => [f]

/-- The outermost classifying layer. -/
def outermost? : Fault → Option Fault
  | .within _ cause => cause.outermost?
  | .classified head => some (.classified head)
  | .classifiedBy head cause => some (.classifiedBy head cause)
  | _ => none

/-- The class of the outermost classifying layer. -/
def kind? (f : Fault) : Option FaultKind := (f.outermost?.bind headline?).map Headline.kind

/-- Is the fault of the given class? -/
def isKind (f : Fault) (k : FaultKind) : Bool := f.kind? == some k

/-- The exit code of the program for a fault. -/
def exitCode (f : Fault) : ExitCode :=
  match f.kind? with
  | some k => k.exitCode
  | none => .failure

/-- The exit code of the program, no fault being success. -/
def exitCodeOf : Option Fault → ExitCode
  | none => .success
  | some f => f.exitCode

/-- The text of a fault without its fixture, which a case report has already shown. -/
def detail (f : Fault) : Bytes :=
  match f.outermost? with
  | some (.classified head) => head.message
  | some (.classifiedBy head cause) => head.message ++ ": " ++ cause.text
  | _ => f.text

/-- The unacceptable field anywhere in the chain, outermost first. -/
def fieldName? : Fault → Option Bytes
  | .field name _ => some name
  | .within _ cause => cause.fieldName?
  | .classifiedBy _ cause => cause.fieldName?
  | _ => none

/-- Is a schema violation behind the fault? -/
def isSchemaViolation : Fault → Bool
  | .schema _ => true
  | .within _ cause => cause.isSchemaViolation
  | .classifiedBy _ cause => cause.isSchemaViolation
  | _ => false

/-- How callers group faults: by class, else by the field at fault, else as a schema violation. -/
inductive Category where
  | kind (k : FaultKind)
  | field (name : Bytes)
  | schema
  | other
deriving DecidableEq, Repr

/-- The category of a fault. -/
def category (f : Fault) : Category :=
  match f.kind? with
  | some k => .kind k
  | none =>
    match f.fieldName? with
    | some name => .field name
    | none => if f.isSchemaViolation then .schema else .other

end Fault

end Golden
