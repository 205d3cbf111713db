import Golden.Interpreter.Fake

/-!
# Launching interpreters

An interpreter is whatever answers an invocation. The one command that is installed is the small
interpreter; any other word fails to start, for the reason the operating system gives.
-/

namespace Golden

/-- What an invocation leads to, in a file tree and under a time limit. -/
abbrev Interpreter := Tree → Duration → List Bytes → Execution

/-- An execution that did not even start. -/
def Execution.notStarted (cause : Bytes) : Execution := { ending := .failed (.plain cause) }

namespace Launch

/-- The name of the installed command. -/
def commandName : Bytes := "fake-interp"

/-- Is the word a name to look up, rather than a path? The root counts as a name: it is its own last
element. -/
def isName (word : Bytes) : Bool := Path.base word = word

/-- The fault of a name that is no command: the root is a directory, and any other name is not on the
search path. -/
def notFound (name : Bytes) : Bytes :=
  "exec: " ++ quote name ++ ": "
    ++ (if name.contains Path.slash then FileCause.isDirectory.text
        else "executable file not found in $PATH")

/-- The fault of a file that cannot be executed. -/
def notExecutable (path : Bytes) (cause : FileCause) : Bytes := "fork/exec " ++ path ++ ": " ++ cause.text

/-- Why a path cannot be executed: no file in the tree is executable. -/
def pathCause (t : Tree) (path : Bytes) : FileCause :=
  match t.locate path with
  | .ok _ => .notPermitted
  | .error c => c

/-- Is there a word that cannot be passed to a command? -/
def hasNul (words : List Bytes) : Bool := words.any (·.contains 0)

/-- How long it takes to start a command, in nanoseconds. A time limit up to this is over before
anything is written. -/
def startTime : Nat := Duration.millisecond

/-- Is the time limit over before a command has started? Zero is no limit. -/
def isTooShort (limit : Duration) : Bool := 0 < limit.ns && limit.ns ≤ startTime

/-- Starts the installed command, which stands in the directory `home`. -/
def installed (home : Bytes) : Interpreter
  | _, _, [] => .notStarted "empty interpreter command"
  | t, limit, name :: words =>
    if name.isEmpty then .notStarted "exec: no command"
    else if !isName name then
      .notStarted (notExecutable name (if hasNul (name :: words) then .invalid else pathCause t name))
    else if name != commandName then .notStarted (notFound name)
    else if hasNul words then .notStarted (notExecutable (home ++ name) .invalid)
    else if isTooShort limit then { ending := .waited }
    else (Fake.run t words).execution limit

end Launch

end Golden
