import BrokerControl.File.Error

/-!
# File trees

A file system as far as a run can see it: files and directories under their full paths. Paths are
resolved step by step from the working directory, so a step through something that is not there, or
is no directory, fails as it does on a disk.
-/

namespace BrokerControl

/-- What stands at a path. -/
inductive FileEntry where
  | file (bytes : List UInt8)
  | directory

/-- Files and directories by path; the root is always there. -/
structure FileTree where
  entries : List (List String × FileEntry)
  /-- Where relative paths start. -/
  workingDirectory : List String

namespace FileTree

/-- How many bytes a name may have. -/
def longestName : Nat := 255

variable (t : FileTree)

/-- What stands at a full path. -/
def entry? (path : List String) : Option FileEntry :=
  if path.isEmpty then some .directory
  else (t.entries.find? fun e ↦ e.1 == path).map (·.2)

/-- Puts an entry at a full path. -/
def put (path : List String) (e : FileEntry) : FileTree :=
  { t with entries := (path, e) :: t.entries.filter fun f ↦ f.1 != path }

/-- Where a path leads. -/
inductive Place where
  | found (path : List String) (e : FileEntry)
  /-- Only the last name is not there. -/
  | free (path : List String)

/-- Goes on from a full path by some steps. -/
def follow : List String → List String → Except FileError Place
  | here, [] =>
    match t.entry? here with
    | some e => .ok (.found here e)
    | none => .error .notFound
  | here, step :: steps =>
    match t.entry? here with
    | none => .error .notFound
    | some (.file _) => .error .notDirectory
    | some .directory =>
      if step = "" || step = "." then follow here steps
      else if step = ".." then follow here.dropLast steps
      else if longestName < step.utf8ByteSize then .error .nameTooLong
      else
        let next := here ++ [step]
        if steps.isEmpty && (t.entry? next).isNone then .ok (.free next) else follow next steps

/-- Where a written path leads. -/
def locate (path : String) : Except FileError Place :=
  if path.isEmpty then .error .notFound
  else t.follow (if path.startsWith "/" then [] else t.workingDirectory) (path.splitOn "/")

/-- The bytes of the file at a path. -/
def read (path : String) : Except FileError (List UInt8) := do
  match ← t.locate path with
  | .found _ (.file bytes) => return bytes
  | .found _ .directory => .error .isDirectory
  | .free _ => .error .notFound

/-- Writes a file, which need not be there yet. -/
def write (path : String) (bytes : List UInt8) : Except FileError FileTree := do
  match ← t.locate path with
  | .found full (.file _) => return t.put full (.file bytes)
  | .found _ .directory => .error .isDirectory
  | .free full => return t.put full (.file bytes)

/-- Opens a file to add to it, and makes it if it is not there yet. -/
def touch (path : String) : Except FileError FileTree := do
  match ← t.locate path with
  | .found _ (.file _) => return t
  | .found _ .directory => .error .isDirectory
  | .free full => return t.put full (.file [])

/-- Makes one directory. -/
def makeDirectory (path : String) : Except FileError FileTree := do
  match ← t.locate path with
  | .found .. => .error .exists
  | .free full => return t.put full .directory

/-- Whether a path leads to a directory. -/
def isDirectory (path : String) : Bool :=
  match t.locate path with
  | .ok (.found _ .directory) => true
  | _ => false

/-- Makes a directory and the ones above it as far as they are missing; the steps of its path come
in reverse. -/
def makeAll : List String → Except FileError FileTree
  | [] => .ok t
  | step :: above =>
    let path := "/".intercalate (step :: above).reverse
    match t.makeDirectory path with
    | .ok t => .ok t
    | .error .notFound => do (← makeAll above).makeDirectory path
    | .error e => if t.isDirectory path then .ok t else .error e

/-- Makes a directory and the ones above it as far as they are missing. -/
def makeDirectories (path : String) : Except FileError FileTree :=
  t.makeAll (path.splitOn "/").reverse

end FileTree

end BrokerControl
