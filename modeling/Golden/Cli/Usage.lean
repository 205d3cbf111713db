import Golden.Console.Basic

/-!
# The help text

What the program says about itself when it is asked: the usage lines, the flags in two columns,
examples, and the version.
-/

namespace Golden.Cli

/-- Width of the column of flags. -/
def flagColumn : Int := 24

/-- The flags with their descriptions. -/
def flagHelp : List (Bytes × Bytes) := [
  ("--strict", "Stop at the first failing test case (default)"),
  ("--lenient", "Run every test case, then report failures"),
  ("--ext=<ext>", "Program file extension (default .asm)"),
  ("--input=<mode>", "Pass input inline or as a file path (inline, file)"),
  ("-j, --jobs=<n>", "Interpreters to run at once (default: CPU count)"),
  ("--timeout=<dur>", "Per-test-case time limit, 0 disables (default 30s)"),
  ("--runner=<cmd>", "Interpreter command (default \"cargo -q run\")"),
  ("--config=<path>", "Config file (default asmcheck.json/.yaml/.yml)"),
  ("--incomplete=<policy>", "Treat incomplete test cases as skip or fail"),
  ("-q, --quiet", "Only print failures"),
  ("-v, --verbose", "Print a diff for each mismatch"),
  ("--no-color", "Disable colored output"),
  ("-h, --help", "Show this help"),
  ("--version", "Show version")]

/-- Examples with their descriptions. -/
def exampleHelp : List (Bytes × Bytes) := [
  ("asmcheck", "Run test_cases/ with cargo -q run"),
  ("asmcheck tests/ --release", "Forward --release to cargo"),
  ("asmcheck --lenient --ext=.arsm cases/", "Report every failure for .arsm programs"),
  ("asmcheck --runner=./interp --input=file cases.txtar",
    "Run an archived suite with a prebuilt interpreter")]

/-- The help text. -/
def usage (c : Console) : Output :=
  c.helpTitle "asmcheck - golden-file test harness for an assembly interpreter"
    ++ c.helpSection "Usage:"
    ++ c.helpUsage "asmcheck [flags] [<dir>] [<interpreter-flags>]"
    ++ c.helpUsage "asmcheck [flags] <archive.txtar>"
    ++ c.helpUsage "asmcheck [flags] [<dir>] -- <interpreter-flags>..."
    ++ c.helpSection "Test Cases:"
    ++ .line "  Each test case is a group of files sharing a base name in <dir>:"
    ++ .line "  <name>.asm (program), <name>.in (optional input), <name>.out (expected output)."
    ++ .line "  The program passes when the interpreter's stdout equals <name>.out exactly."
    ++ c.helpSection "Flags:"
    ++ .concat (flagHelp.map fun (name, description) => c.helpFlag name description flagColumn)
    ++ c.helpSection "Examples:"
    ++ .concat (exampleHelp.map fun (command, description) => c.helpExample command description)
    ++ .line []

/-- The version of the program. -/
def version : Bytes := "dev"

/-- The line that tells the version. -/
def versionLine : Output := .line ("asmcheck " ++ version)

end Golden.Cli
