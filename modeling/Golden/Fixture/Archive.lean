import Golden.Files.Tree
import Golden.Text.Quote
import Golden.Text.Space

/-!
# Archives of fixtures

A suite can be kept in one text file. A line `-- name --` starts a member, whose content is the lines
up to the next such line; what stands before the first one is a comment.

Extraction writes the members one by one into a directory. Only plain file names are allowed, so
nothing is written outside that directory, and the first unusable member ends the extraction.
-/

namespace Golden

/-- A named content. -/
structure ArchiveMember where
  name : Bytes
  data : Bytes
deriving DecidableEq, Repr

/-- The content of an archive file. -/
structure Archive where
  comment : Bytes
  members : List ArchiveMember
deriving DecidableEq, Repr

/-- The extension of archive files. -/
def archiveExtension : Bytes := ".txtar"

/-- Does the path name an archive rather than a directory? -/
def isArchive (path : Bytes) : Bool := Bytes.endsWith archiveExtension path

namespace Archive

/-! ## Reading an archive -/

/-- The lines of a text, each with its newline; only the last one may lack it. -/
def lines : Bytes → List Bytes
  | [] => []
  | b :: s =>
    if b = '\n' then [b] :: lines s
    else match lines s with
      | [] => [[b]]
      | l :: ls => (b :: l) :: ls

/-- The member that a line starts, if it is a marker line: `-- name --`, the name trimmed and not
blank. -/
def markerName? (line : Bytes) : Option Bytes :=
  let l := if line.getLast? == some 0x0a then line.dropLast else line
  if l.length ≥ 6 && Bytes.startsWith "-- " l && Bytes.endsWith " --" l then
    let name := trimSpace ((l.drop 3).take (l.length - 6))
    if name.isEmpty then none else some name
  else none

/-- Adds the newline that a non-empty text without one needs. -/
def withNewline (s : Bytes) : Bytes :=
  if s.isEmpty || s.getLast? == some 0x0a then s else s ++ [0x0a]

/-- The text up to the first marker line, and the members from there on. -/
def sections : List Bytes → Bytes × List ArchiveMember
  | [] => ([], [])
  | line :: rest =>
    let (text, members) := sections rest
    match markerName? line with
    | some name => ([], ⟨name, withNewline text⟩ :: members)
    | none => (line ++ text, members)

/-- Reads an archive. -/
def parse (s : Bytes) : Archive :=
  let (comment, members) := sections (lines s)
  ⟨withNewline comment, members⟩

/-! ## Writing members -/

/-- Why a member cannot be written under its name. -/
inductive NameFault where
  | empty
  | dots (name : Bytes)
  | notPlain (name : Bytes)
  | repeated (name : Bytes)
deriving DecidableEq, Repr

/-- The text of a name fault. -/
def NameFault.text : NameFault → Bytes
  | .empty => "archive member has an empty name"
  | .dots name => "archive member " ++ quote name ++ " contains \"..\""
  | .notPlain name => "archive member " ++ quote name ++ " must be a plain file name"
  | .repeated name => "archive member " ++ quote name ++ " appears more than once"

/-- Checks that a member's name is a plain file name. -/
def checkName (name : Bytes) : Except NameFault Unit :=
  if name.isEmpty then .error .empty
  else if Bytes.occursIn ".." name then .error (.dots name)
  else if name.any fun b => b == '/' || b == '\\' then .error (.notPlain name)
  else .ok ()

/-- What an extraction leaves behind: the tree after it, and the fault that ended it early. -/
structure Outcome where
  tree : Tree
  fault : Option Fault
deriving DecidableEq, Repr

/-- Writes members into a directory; `seen` holds the names written so far. -/
def writeMembers (t : Tree) (dir : Bytes) (seen : List Bytes) : List ArchiveMember → Outcome
  | [] => ⟨t, none⟩
  | m :: ms =>
    match checkName m.name with
    | .error e => ⟨t, some (.discovery dir (some (.plain e.text)))⟩
    | .ok () =>
      if seen.contains m.name then
        ⟨t, some (.discovery dir (some (.plain (NameFault.repeated m.name).text)))⟩
      else
        match t.writeFile (Path.join dir m.name) m.data with
        | .error e => ⟨t, some (.discovery dir (some (.within "write archive member" e.fault)))⟩
        | .ok t' => writeMembers t' dir (m.name :: seen) ms

/-- Writes the members of an archive into a directory. -/
def write (t : Tree) (members : List ArchiveMember) (dir : Bytes) : Outcome :=
  writeMembers t dir [] members

/-- Reads the archive at a path and writes its members into a directory. -/
def extract (t : Tree) (path dir : Bytes) : Outcome :=
  match t.read path with
  | .error e => ⟨t, some (.discovery path (some e.fault))⟩
  | .ok data => write t (parse data).members dir

end Archive

end Golden
