import Golden.Files.Path
import Golden.Text.Number

/-!
# A recording interpreter

Stands in for an interpreter in tests: it answers with prepared outputs, chosen by the program that an
invocation names, and keeps a record of all invocations and of how many were in flight at once.
-/

namespace Golden

/-- The name, without extension, of the first word that looks like the path of a program: no flag, with
a directory and an extension. Empty if there is none. -/
def programName : List Bytes → Bytes
  | [] => []
  | w :: ws =>
    let base := Path.base w
    let extension := Path.extension base
    if Bytes.startsWith "-" w || Path.parent w = utf8 "." || extension.isEmpty then programName ws
    else base.take (base.length - extension.length)

/-- An answer to every invocation. -/
structure FixedAnswer where
  stdout : Bytes
  stderr : Bytes
  /-- Is it an error as well? -/
  fails : Bool
deriving DecidableEq, Repr

/-- Prepared outputs and the record of invocations. -/
structure Recorder where
  /-- Standard outputs by program, the latest first. -/
  outputs : List (Bytes × Bytes) := []
  /-- Standard errors by program, the latest first. -/
  errors : List (Bytes × Bytes) := []
  /-- An answer that replaces the prepared ones. -/
  fixed : Option FixedAnswer := none
  /-- The invocations, in order. -/
  calls : List (List Bytes) := []
  /-- The largest number of invocations in flight at once. -/
  peak : Nat := 0
deriving DecidableEq, Repr

namespace Recorder

/-- Prepares a standard output. -/
def withOutput (r : Recorder) (program stdout : Bytes) : Recorder :=
  { r with outputs := (program, stdout) :: r.outputs }

/-- Prepares a standard error. -/
def withError (r : Recorder) (program stderr : Bytes) : Recorder :=
  { r with errors := (program, stderr) :: r.errors }

/-- The prepared text for a program. -/
def lookup (texts : List (Bytes × Bytes)) (program : Bytes) : Bytes :=
  ((texts.find? (·.1 = program)).map (·.2)).getD []

/-- Records invocations that are in flight at the same time. -/
def record (r : Recorder) (inFlight : List (List Bytes)) : Recorder :=
  { r with calls := r.calls ++ inFlight, peak := max r.peak inFlight.length }

/-- The answer to an invocation: standard output, standard error and the text of an error. -/
def answer (r : Recorder) (words : List Bytes) : Bytes × Bytes × Option Bytes :=
  match r.fixed with
  | some a =>
    (a.stdout, a.stderr,
      if a.fails then some ("exec failed with " ++ decimal words.length ++ " args") else none)
  | none => (lookup r.outputs (programName words), lookup r.errors (programName words), none)

/-- Forgets the invocations, not the answers. -/
def reset (r : Recorder) : Recorder := { r with calls := [], peak := 0 }

end Recorder

end Golden
