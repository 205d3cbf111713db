import Golden.Fault
import Golden.Files.Path
import Golden.Text.Number

/-!
# File trees

A file tree with symbolic links, as a map from locations to entries. A location is the list of names
from the root down; a path is a text, and `Tree.walk` finds the location it names: names are looked
up from left to right, links are followed where they stand, and `..` leads to the parent of the
directory reached so far.

The operations fail as the operating system does, with one of a few causes, and report the path as it
was given.
-/

namespace Golden

/-- The names from the root down to an entry. -/
abbrev Location := List Bytes

/-- What stands at a location. -/
inductive Entry where
  | file (data : Bytes)
  | dir
  | link (target : Bytes)
deriving DecidableEq, Repr

/-- A file tree and the directory that relative paths start from. -/
structure Tree where
  cwd : Location
  entries : List (Location × Entry)
deriving DecidableEq, Repr

/-- Why the operating system refuses an operation. -/
inductive FileCause where
  | notFound
  | notDirectory
  | isDirectory
  | tooManyLinks
  | nameTooLong
  | invalid
  | notPermitted
deriving DecidableEq, Repr

/-- The words for a cause. -/
def FileCause.text : FileCause → Bytes
  | .notFound => "no such file or directory"
  | .notDirectory => "not a directory"
  | .isDirectory => "is a directory"
  | .tooManyLinks => "too many levels of symbolic links"
  | .nameTooLong => "file name too long"
  | .invalid => "invalid argument"
  | .notPermitted => "permission denied"

/-- A refused operation on a path. -/
structure FileError where
  operation : Bytes
  path : Bytes
  cause : FileCause
deriving DecidableEq, Repr

/-- The text of a refused operation. -/
def FileError.text (e : FileError) : Bytes := e.operation ++ " " ++ e.path ++ ": " ++ e.cause.text

/-- A refused operation as a fault. -/
def FileError.fault (e : FileError) : Fault := .plain e.text

/-- Where a path leads. -/
inductive Destination where
  /-- An entry that is no link. -/
  | found (location : Location)
  /-- A free name in an existing directory. -/
  | free (directory : Location) (name : Bytes)
deriving DecidableEq, Repr

namespace Tree

/-- The entry at a location. The root is a directory. -/
def get? (t : Tree) (l : Location) : Option Entry :=
  if l.isEmpty then some .dir else (t.entries.find? (·.1 = l)).map (·.2)

/-- Is there a directory at the location? -/
def isDir (t : Tree) (l : Location) : Bool := t.get? l == some .dir

/-- The tree with an entry put at a location, in place of what stood there. -/
def put (t : Tree) (l : Location) (e : Entry) : Tree :=
  if t.entries.any (·.1 = l) then
    { t with entries := t.entries.map fun p => if p.1 = l then (l, e) else p }
  else { t with entries := t.entries ++ [(l, e)] }

/-- The name of an entry directly under a directory. -/
def childName? (dir l : Location) : Option Bytes :=
  if dir.isPrefixOf l then
    match l.drop dir.length with
    | [name] => some name
    | _ => none
  else none

/-- The entries directly under a directory, ordered by name. -/
def children (t : Tree) (dir : Location) : List (Bytes × Entry) :=
  (t.entries.filterMap fun p => (childName? dir p.1).map fun name => (name, p.2)).mergeSort
    fun a b => Bytes.le a.1 b.1

/-! ## Walking a path -/

/-- Longest name of an entry, in bytes. -/
def maxName : Nat := 255

/-- Longest path, in bytes. -/
def maxPath : Nat := 4095

/-- Most links followed on one walk. -/
def maxLinks : Nat := 40

/-- The names a path asks for in turn. A path that ends in a separator asks its last name to be a
directory, which a final `.` says as well. -/
def pathNames (p : Bytes) : List Bytes :=
  let names := (Bytes.splitOn Path.slash p).filter (!·.isEmpty)
  if p.getLast? == some Path.slash && !names.isEmpty then names ++ [utf8 "."] else names

/-- Looks the names up one after the other, starting at a location. `follow` goes on with a link's
target and the names after it. -/
def walkNames (t : Tree) (follow : Location → Bytes → List Bytes → Except FileCause Destination) :
    Location → List Bytes → Except FileCause Destination
  | here, [] => .ok (.found here)
  | here, name :: rest =>
    if !t.isDir here then .error .notDirectory
    else if name = utf8 "." then walkNames t follow here rest
    else if name = utf8 ".." then walkNames t follow here.dropLast rest
    else if name.length > maxName then .error .nameTooLong
    else
      match t.get? (here ++ [name]) with
      | none => if rest.isEmpty then .ok (.free here name) else .error .notFound
      | some (.link target) => follow here target rest
      | some _ => walkNames t follow (here ++ [name]) rest

/-- Walks names with a bounded number of links. -/
def walkFrom (t : Tree) : Nat → Location → List Bytes → Except FileCause Destination
  | 0 => t.walkNames fun _ _ _ => .error .tooManyLinks
  | links + 1 => t.walkNames fun here target rest =>
      t.walkFrom links (if Path.isAbsolute target then [] else here) (pathNames target ++ rest)

/-- Where the walk of a path starts. -/
def start (t : Tree) (p : Bytes) : Location := if Path.isAbsolute p then [] else t.cwd

/-- Where a path leads in the tree. -/
def walk (t : Tree) (p : Bytes) : Except FileCause Destination :=
  if p.isEmpty then .error .notFound
  else if p.contains 0 then .error .invalid
  else if p.length > maxPath then .error .nameTooLong
  else t.walkFrom maxLinks (t.start p) (pathNames p)

/-- The location of the existing entry that a path leads to. -/
def locate (t : Tree) (p : Bytes) : Except FileCause Location :=
  match t.walk p with
  | .ok (.found l) => .ok l
  | .ok (.free _ _) => .error .notFound
  | .error c => .error c

/-! ## Operations -/

/-- The content of the file that a path leads to. -/
def read (t : Tree) (p : Bytes) : Except FileError Bytes :=
  match t.locate p with
  | .error c => .error ⟨"open", p, c⟩
  | .ok l =>
    match t.get? l with
    | some (.file data) => .ok data
    | some .dir => .error ⟨"read", p, .isDirectory⟩
    | _ => .error ⟨"open", p, .notFound⟩

/-- The entries of the directory that a path leads to, ordered by name. -/
def list (t : Tree) (p : Bytes) : Except FileError (List (Bytes × Entry)) :=
  match t.locate p with
  | .error c => .error ⟨"open", p, c⟩
  | .ok l => if t.isDir l then .ok (t.children l) else .error ⟨"open", p, .notDirectory⟩

/-- Does the path lead to something that is no directory? -/
def isRegular (t : Tree) (p : Bytes) : Bool :=
  match t.locate p with
  | .ok l => !t.isDir l
  | .error _ => false

/-- Writes the file that a path leads to, creating it when its directory has no such name. -/
def writeFile (t : Tree) (p data : Bytes) : Except FileError Tree :=
  match t.walk p with
  | .error c => .error ⟨"open", p, c⟩
  | .ok (.free dir name) => .ok (t.put (dir ++ [name]) (.file data))
  | .ok (.found l) =>
    if t.isDir l then .error ⟨"open", p, .isDirectory⟩ else .ok (t.put l (.file data))

/-! ## Putting entries at paths

These read a path by its names alone and follow no link. -/

/-- The names in a path, empty ones and `.` left out. -/
def plainNames (p : Bytes) : List Bytes :=
  (Bytes.splitOn Path.slash p).filter fun n => !n.isEmpty && n != utf8 "."

/-- The location that a path names. -/
def placeOf (t : Tree) (p : Bytes) : Location := t.start p ++ plainNames p

/-- The tree with an entry at a path and directories above it. -/
def place (t : Tree) (p : Bytes) (e : Entry) : Tree :=
  let names := plainNames p
  let above := (List.range names.length).map fun k => t.start p ++ names.take k
  let withDirs := above.foldl (fun t l => if (t.get? l).isNone then t.put l .dir else t) t
  if names.isEmpty then withDirs else withDirs.put (t.placeOf p) e

/-- Does nothing stand at the path? -/
def isFree (t : Tree) (p : Bytes) : Bool := (t.get? (t.placeOf p)).isNone

/-- A path with a number behind it, the first one without. -/
def numbered (p : Bytes) : Nat → Bytes
  | 0 => p
  | k + 1 => p ++ decimal k

/-- The first path at which nothing stands: this one, or with a number behind it. -/
def freePath (t : Tree) (p : Bytes) : Bytes :=
  (((List.range (t.entries.length + 2)).map (numbered p)).find? t.isFree).getD p

end Tree

end Golden
