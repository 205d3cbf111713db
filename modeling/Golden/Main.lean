import Golden.Cli.Basic

/-!
# The command line

Runs the program on an archive of files that is read from standard input, with the small interpreter
as the installed command.
-/

namespace Golden.CommandLine

/-- Everything that can be read from a stream. -/
partial def readAll (input : IO.FS.Stream) (sofar : ByteArray) : IO ByteArray := do
  let chunk ← input.read 65536
  if chunk.isEmpty then return sofar else readAll input (sofar ++ chunk)

/-- The working directory with the files of an archive in it. -/
def treeOf (archive : Bytes) : Tree :=
  (Archive.parse archive).members.foldl (fun t m => t.place m.name (.file m.data))
    { cwd := [utf8 "work"], entries := [([utf8 "work"], .dir)] }

/-- The outcome of an invocation on the files of an archive. -/
def invoke (archive : Bytes) (args : List Bytes) : Cli.Outcome :=
  Cli.run { tree := treeOf archive, interpreter := Launch.installed [] } args

end Golden.CommandLine

/-- Runs the program and ends with its exit code. -/
def main (args : List String) : IO UInt32 := do
  let archive ← Golden.CommandLine.readAll (← IO.getStdin) .empty
  let outcome := Golden.CommandLine.invoke archive.toList (args.map Golden.utf8)
  (← IO.getStdout).write ⟨outcome.output.out.toArray⟩
  (← IO.getStderr).write ⟨outcome.output.err.toArray⟩
  return UInt32.ofNat outcome.code.code
