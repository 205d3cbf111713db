import Golden.Duration
import Golden.Files.Tree
import Golden.Run.Verdict

/-!
# A small interpreter

An interpreter for a language with one instruction per line, for trying the harness out. It takes the
words that the harness passes: flags, a program, and an input either as the value of `-u` or as the
file named after `--stdin`.

Its instructions are `print`, `println`, `input`, `flags`, `stderr`, `sleep` and `exit`; empty lines
and lines that start with `#` mean nothing.
-/

namespace Golden.Fake

/-- What the interpreter does, step by step. -/
inductive Action where
  | out (s : Bytes)
  | err (s : Bytes)
  | sleep (d : Duration)
deriving DecidableEq, Repr

/-- What the interpreter does, and the exit status it ends with. -/
structure Trace where
  actions : List Action
  exit : Int
deriving DecidableEq, Repr

namespace Trace

/-- A trace that only complains. -/
def complaint (message : Bytes) (exit : Int) : Trace := ⟨[.err (message ++ "\n")], exit⟩

/-- A trace with an action in front. -/
def cons (a : Action) (t : Trace) : Trace := { t with actions := a :: t.actions }

/-- Everything written to standard output. -/
def stdout (t : Trace) : Bytes :=
  t.actions.flatMap fun
    | .out s => s
    | _ => []

/-- Everything written to standard error. -/
def stderr (t : Trace) : Bytes :=
  t.actions.flatMap fun
    | .err s => s
    | _ => []

end Trace

/-! ## Words -/

/-- What the words ask for. -/
structure Invocation where
  /-- The path of the program. -/
  program : Bytes := []
  input : Bytes := []
  /-- The flags that are not the interpreter's own. -/
  flags : List Bytes := []
deriving DecidableEq, Repr

/-- Reads words one after the other; an input file that cannot be read ends it. -/
def readWords (t : Tree) (i : Invocation) : List Bytes → Except FileError Invocation
  | [] => .ok i
  | [w] => .ok (other i w)
  | w :: v :: rest =>
    if w = utf8 "-u" then readWords t { i with input := v } rest
    else if w = utf8 "--stdin" then
      match t.read v with
      | .error e => .error e
      | .ok data => readWords t { i with input := data } rest
    else readWords t (other i w) (v :: rest)
where
  /-- A word without a value. -/
  other (i : Invocation) (w : Bytes) : Invocation :=
    if Bytes.startsWith "-" w then { i with flags := i.flags ++ [w] } else { i with program := w }

/-! ## Programs -/

/-- The name of an instruction and its operand. -/
def instruction (line : Bytes) : Bytes × Bytes :=
  match Bytes.cut ' ' line with
  | (op, operand) => (op, operand.getD [])

/-- Carries out the lines of a program. -/
def execute (i : Invocation) : List Bytes → Trace
  | [] => ⟨[], 0⟩
  | rawLine :: lines =>
    let line := Bytes.dropRightWhile (· == 0x0d) rawLine
    if line.isEmpty || Bytes.startsWith "#" line then execute i lines
    else
      let (op, operand) := instruction line
      if op = utf8 "print" then (execute i lines).cons (.out operand)
      else if op = utf8 "println" then (execute i lines).cons (.out (operand ++ "\n"))
      else if op = utf8 "input" then (execute i lines).cons (.out i.input)
      else if op = utf8 "flags" then (execute i lines).cons (.out (Bytes.join " " i.flags))
      else if op = utf8 "stderr" then (execute i lines).cons (.err (operand ++ "\n"))
      else if op = utf8 "sleep" then
        match Duration.parse? operand with
        | some d => (execute i lines).cons (.sleep d)
        | none => .complaint ("bad duration " ++ quote operand) 2
      else if op = utf8 "exit" then
        match readInt64? operand with
        | some n => ⟨[], n⟩
        | none => .complaint ("bad exit code " ++ quote operand) 2
      else .complaint ("unknown instruction " ++ quote op) 2

/-- Runs the program that words ask for. -/
def run (t : Tree) (words : List Bytes) : Trace :=
  match readWords t {} words with
  | .error e => .complaint ("cannot read input: " ++ e.text) 1
  | .ok i =>
    match t.read i.program with
    | .error e => .complaint ("cannot read program: " ++ e.text) 1
    | .ok source => execute i (Bytes.splitOn 0x0a source)

/-! ## Under a time limit -/

/-- What is done before the time is up: the actions, and whether all of them are done. Sleeping is the
only thing that takes time. -/
def within (left : Int) : List Action → List Action × Bool
  | [] => ([], true)
  | .sleep d :: as =>
    let left := if d.ns > 0 then left - d.ns else left
    if left ≤ 0 then ([], false)
    else
      let (done, all) := within left as
      (.sleep d :: done, all)
  | a :: as =>
    let (done, all) := within left as
    (a :: done, all)

/-- The execution of a trace under a time limit; zero is no limit. -/
def Trace.execution (limit : Duration) (t : Trace) : Execution :=
  let (actions, done) := if limit.ns > 0 then within limit.ns t.actions else (t.actions, true)
  let seen : Trace := ⟨actions, t.exit⟩
  { stdout := seen.stdout, stderr := seen.stderr, ending := if done then .exited else .waited }

end Golden.Fake
