import Golden.Console.Ansi
import Golden.Text.Case
import Golden.Text.Format

/-!
# Console output

What the program writes, piece by piece. A `Console` says whether colours are wanted and whether
passed cases are worth a report; every operation returns the `Output` it adds.
-/

namespace Golden

/-- What is written to the two output streams. -/
structure Output where
  out : Bytes := []
  err : Bytes := []
deriving DecidableEq, Repr, Inhabited

/-- One output after the other. -/
def Output.append (a b : Output) : Output := ⟨a.out ++ b.out, a.err ++ b.err⟩

instance : Append Output := ⟨Output.append⟩

/-- Outputs one after the other. -/
def Output.concat (os : List Output) : Output := os.foldr (· ++ ·) {}

theorem Output.append_def (a b : Output) : a ++ b = ⟨a.out ++ b.out, a.err ++ b.err⟩ := rfl

@[simp] theorem Output.append_empty (a : Output) : a ++ ({} : Output) = a := by
  simp [Output.append_def]

@[simp] theorem Output.empty_append (a : Output) : ({} : Output) ++ a = a := by
  simp [Output.append_def]

theorem Output.append_assoc (a b c : Output) : a ++ b ++ c = a ++ (b ++ c) := by
  simp [Output.append_def]

@[simp] theorem Output.concat_nil : Output.concat [] = {} := rfl

@[simp] theorem Output.concat_cons (a : Output) (os : List Output) :
    Output.concat (a :: os) = a ++ Output.concat os := rfl

theorem Output.concat_append (os ps : List Output) :
    Output.concat (os ++ ps) = Output.concat os ++ Output.concat ps := by
  induction os with
  | nil => simp
  | cons a os ih => simp [ih, Output.append_assoc]

/-- A line on standard output. -/
def Output.line (s : Bytes) : Output := { out := s ++ "\n" }

/-- A line on standard error. -/
def Output.errorLine (s : Bytes) : Output := { err := s ++ "\n" }

/-- The report on one case. -/
structure CaseReport where
  /-- The path of the program, or what else names the case. -/
  program : Bytes
  status : Bytes
  expected : Bytes := []
  actual : Bytes := []
  stderr : Bytes := []
  /-- Why there is no verdict. -/
  detail : Bytes := []
  /-- How the outputs differ. -/
  diff : Bytes := []
deriving DecidableEq, Repr

namespace CaseReport

/-- The output was as expected. -/
def passed : Bytes := "passed"

/-- The output was not as expected. -/
def failed : Bytes := "failed"

/-- The interpreter could not do its work. -/
def error : Bytes := "error"

/-- The case lacks files. -/
def incomplete : Bytes := "incomplete"

/-- The ink of a status. -/
def statusInk (status : Bytes) : Ink :=
  if status = passed then .green else if status = incomplete then .yellow else .red

/-- The first line of the report. -/
def headLine (color : Bool) (r : CaseReport) : Bytes :=
  "Case " ++ r.program ++ ": " ++ paint color [statusInk r.status] (titleCase r.status) ++ "\n"

/-- An indented line. -/
def indented (line : Bytes) : Bytes := "    " ++ line ++ "\n"

/-- The difference, indented. -/
def diffBlock (diff : Bytes) : Bytes :=
  if diff.isEmpty then []
  else
    utf8 "  Diff (-expected +got):\n"
      ++ (Bytes.splitOn 0x0a (Bytes.dropRightWhile (· == 0x0a) diff)).flatMap indented

/-- A line with a label, left out when there is nothing to say. -/
def optionalLine (label s : Bytes) : Bytes := if s.isEmpty then [] else label ++ s ++ "\n"

/-- What follows the first line. -/
def body (r : CaseReport) : Bytes :=
  if r.status = failed then
    "  Expected: " ++ r.expected ++ "\n  Got:      " ++ r.actual ++ "\n  Errors: " ++ r.stderr ++ "\n"
      ++ diffBlock r.diff
  else if r.status = error || r.status = incomplete then
    optionalLine "  " r.detail ++ optionalLine "  Errors: " r.stderr
  else []

end CaseReport

/-- How output is written. -/
structure Console where
  color : Bool := false
  /-- Are passed cases and notes left out? -/
  quiet : Bool := false
deriving DecidableEq, Repr

namespace Console

variable (c : Console)

/-- A text in inks, if colours are wanted. -/
def paint (inks : List Ink) (s : Bytes) : Bytes := Golden.paint c.color inks s

/-! ## Lines -/

/-- A formatted line on standard output. The line end belongs to the format. -/
def formattedLine (template : Bytes) (args : List FormatArg) : Output :=
  { out := format (template ++ "\n") args }

/-- A formatted line on standard error. -/
def formattedErrorLine (template : Bytes) (args : List FormatArg) : Output :=
  { err := format (template ++ "\n") args }

/-- A note: a formatted line that is left out in quiet mode. -/
def note (template : Bytes) (args : List FormatArg) : Output :=
  if c.quiet then {} else formattedLine template args

/-- An error message. -/
def error (message : Bytes) : Output := .errorLine (c.paint [.red] "asmcheck:" ++ " " ++ message)

/-- A warning. -/
def warning (message : Bytes) : Output := .errorLine (c.paint [.yellow] "warning:" ++ " " ++ message)

/-- The report on a case; none on a passed one in quiet mode. -/
def case (r : CaseReport) : Output :=
  if r.status = CaseReport.passed && c.quiet then {} else { out := r.headLine c.color ++ r.body }

/-! ## Help -/

/-- The title of the help text. -/
def helpTitle (title : Bytes) : Output := .line (c.paint [.bold, .cyan] title)

/-- The head of a section of the help text. -/
def helpSection (title : Bytes) : Output := .line [] ++ .line (c.paint [.bold, .yellow] title)

/-- A text filled up with blanks on the right, with the width as a format takes it. -/
def leftAligned (width : Int) (s : Bytes) : Bytes := format "%-*s" [.int width, .text s]

/-- A flag with its description. -/
def helpFlag (name description : Bytes) (width : Int) : Output :=
  if c.color then
    .line (utf8 "  " ++ Golden.paint true [.yellow] (highlight name)
      ++ List.replicate (width - name.length).toNat 0x20 ++ utf8 "  "
      ++ Golden.paint true [.dim] description)
  else .line (utf8 "  " ++ leftAligned width name ++ utf8 "  " ++ description)

/-- An example and, unless it is empty, its description. -/
def helpExample (command description : Bytes) : Output :=
  .line ("  " ++ c.paint [.cyan] command)
    ++ if description.isEmpty then {} else .line ("      " ++ c.paint [.dim] description)

/-- A usage line. -/
def helpUsage (usage : Bytes) : Output := .line ("  " ++ if c.color then highlight usage else usage)

/-! ## Summaries -/

/-- The head of the summary. -/
def summaryHeader (title : Bytes) : Output :=
  .line [] ++ .line (c.paint [.bold, .cyan] ("=== " ++ title ++ " ===")) ++ .line []

/-- A labelled value in inks. -/
def summaryValue (inks : List Ink) (label value : Bytes) : Output :=
  .line ("  " ++ c.paint [.dim] (label ++ ":") ++ " "
    ++ if inks.isEmpty then value else c.paint inks value)

/-- A labelled value. -/
def summaryItem (label value : Bytes) : Output := c.summaryValue [] label value

/-- A labelled value about what passed. -/
def summaryPassed (label value : Bytes) : Output := c.summaryValue [.green] label value

/-- A labelled value about what failed. -/
def summaryFailed (label value : Bytes) : Output := c.summaryValue [.red] label value

/-- The label of a list. -/
def summaryLabel (label : Bytes) : Output := .line ("  " ++ c.paint [.dim] label)

/-- The last line of a run that succeeded. -/
def finalSuccess (message : Bytes) : Output := .line [] ++ .line (c.paint [.green] message)

/-- The last line of a run that failed. -/
def finalFailure (message : Bytes) : Output := .line [] ++ .line (c.paint [.red] message)

end Console

end Golden
