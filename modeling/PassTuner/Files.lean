import PassTuner.Text.Bytes
import PassTuner.Text.Stream

/-! A tree of files.

Directories, files and devices stand in places, which are lists of names from the root on. Paths
are followed name by name: whatever a name stands in must be a directory. Names and contents are
bytes. -/
namespace PassTuner

open Text (Stream)

/-- The names from the root on. -/
abbrev Place := List String

/-- What can stand in a place. -/
inductive Node where
  | directory
  | file (content : List Char) (executable : Bool)
  /-- a program that is installed -/
  | program
  /-- stands for another place, where no link stands -/
  | link (target : Place)
  /-- holds nothing and takes everything -/
  | null
  /-- holds zeros without end -/
  | zero
  /-- takes nothing, and holds zeros without end -/
  | full
  /-- there is no one at it -/
  | terminal
  /-- stands between programs -/
  | pipe
  /-- takes everything for someone to see -/
  | console (written : List Char)
  deriving DecidableEq, Repr

/-- Why nothing can be done with a path. -/
inductive FileError where
  | missing
  | noDevice
  | notDirectory
  | isDirectory
  | denied
  | nameTooLong
  | noSpace
  | exists
  | notEmpty
  | tooLarge
  | badDescriptor
  deriving DecidableEq, Repr

def FileError.description : FileError → Nat × String
  | .missing => (2, "No such file or directory")
  | .noDevice => (6, "No such device or address")
  | .badDescriptor => (9, "Bad file descriptor")
  | .denied => (13, "Permission denied")
  | .exists => (17, "File exists")
  | .notDirectory => (20, "Not a directory")
  | .isDirectory => (21, "Is a directory")
  | .tooLarge => (27, "File too large")
  | .noSpace => (28, "No space left on device")
  | .nameTooLong => (36, "File name too long")
  | .notEmpty => (39, "Directory not empty")

def FileError.message (e : FileError) : String := e.description.2

/-- Whether an error comes up only when something is read that could be opened. -/
def FileError.arisesReading (e : FileError) : Bool := e == .isDirectory || e == .badDescriptor

structure Files where
  nodes : List (Place × Node)
  deriving DecidableEq, Repr, Inhabited

namespace Files

/-- The directory in which paths start that do not start at the root. -/
def workingPlace : Place := ["tmp", "work"]

/-- Directories of every tree. -/
def standardDirectories : List Place :=
  [[], ["boot"], ["dev"], ["etc"], ["home"], ["media"], ["mnt"], ["opt"], ["proc"], ["root"], ["run"],
   ["srv"], ["sys"], ["tmp"], ["usr"], ["usr", "bin"], ["usr", "lib"], ["usr", "local"],
   ["usr", "local", "bin"], ["usr", "local", "sbin"], ["usr", "sbin"], ["usr", "share"], ["var"],
   ["var", "tmp"], workingPlace]

def standardLinks : List (Place × Place) :=
  [(["bin"], ["usr", "bin"]), (["lib"], ["usr", "lib"]), (["sbin"], ["usr", "sbin"])]

def standardDevices : List (String × Node) :=
  [("null", .null), ("zero", .zero), ("full", .full), ("stdin", .null), ("stdout", .console []),
   ("stderr", .console []), ("tty", .terminal)]

def standardPrograms : List String :=
  ["[", "basename", "cat", "cp", "cut", "dash", "dirname", "echo", "env", "expr", "false", "grep", "head",
   "mkdir", "mv", "nice", "printf", "pwd", "rm", "rmdir", "seq", "sh", "sleep", "sort", "tac", "tail", "tee",
   "test", "timeout", "touch", "tr", "true", "uniq", "wc", "yes"]

/-- Files that every tree has, and that say nothing here. -/
def standardFiles : List Place := [["etc", "group"], ["etc", "hostname"], ["etc", "hosts"], ["etc", "passwd"]]

/-- The tree in which nothing was written yet. -/
def empty : Files where
  nodes :=
    standardDirectories.map (·, .directory) ++
      standardLinks.map (fun (place, target) => (place, .link target)) ++
      standardDevices.map (fun (name, device) => (["dev", name], device)) ++
      standardPrograms.map (fun name => (["usr", "bin", name], .program)) ++
      standardFiles.map (·, .file "root:x:0:\n".toList false)

def node? (fs : Files) (place : Place) : Option Node := fs.nodes.lookup place

def isDirectory (fs : Files) (place : Place) : Bool := fs.node? place == some .directory

/-- Put a node into a place, whatever stood there. -/
def put (fs : Files) (place : Place) (node : Node) : Files :=
  ⟨(place, node) :: fs.nodes.filter fun entry => entry.1 != place⟩

def clear (fs : Files) (place : Place) : Files :=
  ⟨fs.nodes.filter fun entry => !place.isPrefixOf entry.1⟩

def namesIn (fs : Files) (place : Place) : List String :=
  fs.nodes.filterMap fun (inner, _) =>
    if inner.length = place.length + 1 ∧ place.isPrefixOf inner then inner.getLast? else none

/-- Where one name leads to from a directory. Nothing is above the root. -/
def enter (place : Place) (name : String) : Place :=
  if name = "" ∨ name = "." then place
  else if name = ".." then place.dropLast
  else place ++ [name]

def longestName : Nat := 255

/-- The place that a place stands for: that of a link, or the place itself. -/
def behind (fs : Files) (place : Place) : Place :=
  match fs.node? place with
  | some (.link target) => target
  | _ => place

/-- The place that names lead to, if each stands in a directory. -/
def follow (fs : Files) : Place → List String → Except FileError Place
  | place, [] => .ok place
  | place, name :: rest =>
    match fs.node? place with
    | none => .error .missing
    | some .directory =>
      if longestName < name.length then .error .nameTooLong else fs.follow (fs.behind (enter place name)) rest
    | some _ => .error .notDirectory

/-- The place of a path that starts in a directory, or at the root. The last name need not be
there. -/
def locate (fs : Files) (start : Place) (path : String) : Except FileError Place :=
  if path.isEmpty then .error .missing
  else fs.follow (if path.startsWith "/" then [] else start) (path.splitOn "/")

/-- Whether the last name of a path is that of a link. -/
def isLink (fs : Files) (start : Place) (path : String) : Bool :=
  let names := path.splitOn "/"
  match fs.follow (if path.startsWith "/" then [] else start) names.dropLast, names.getLast? with
  | .ok place, some name => match fs.node? (enter place name) with
    | some (.link _) => true
    | _ => false
  | _, _ => false

def content : Node → Except FileError Stream
  | .directory => .error .isDirectory
  | .file content _ => .ok (.ofText content)
  | .program => .ok (.ofText ['\x7f', 'E', 'L', 'F', Char.ofNat 255])
  | .link _ => .error .missing
  | .terminal => .error .noDevice
  | .null | .pipe | .console _ => .ok .empty
  | .zero | .full => .ok ⟨[], [Char.ofNat 0]⟩

def find (fs : Files) (start : Place) (path : String) : Except FileError Node := do
  match fs.node? (← fs.locate start path) with
  | some node => .ok node
  | none => .error .missing

def read (fs : Files) (start : Place) (path : String) : Except FileError Stream := do
  content (← fs.find start path)

/-- The tree after a node has taken new content, in place of its own. -/
def store (fs : Files) (place : Place) (bytes : List Char) : Except FileError Files :=
  match fs.node? place with
  | some .directory => .error .isDirectory
  | some .program => .error .denied
  | some (.link _) => .error .missing
  | some .terminal => .error .noDevice
  | some .null | some .zero | some .pipe => .ok fs
  | some .full => if bytes.isEmpty then .ok fs else .error .noSpace
  | some (.console written) => .ok (fs.put place (.console (written ++ bytes)))
  | some (.file _ executable) => .ok (fs.put place (.file bytes executable))
  | none =>
    match fs.node? place.dropLast with
    | some .directory => .ok (fs.put place (.file bytes false))
    | some _ => .error .notDirectory
    | none => .error .missing

def write (fs : Files) (start : Place) (path : String) (bytes : List Char) : Except FileError Files := do
  fs.store (← fs.locate start path) bytes

def makeDirectories (fs : Files) : Place → List String → Except FileError Files
  | _, [] => .ok fs
  | place, name :: rest =>
    let next := enter place name
    match fs.node? next with
    | some .directory => fs.makeDirectories next rest
    | some _ => .error .exists
    | none => (fs.put next .directory).makeDirectories next rest

/-! Files of texts, in the working directory. -/

def pathBytes (path : String) : String := String.ofList (Text.bytes path)

def read? (fs : Files) (path : String) : Option String :=
  match fs.read workingPlace (pathBytes path) with
  | .ok stream => if stream.isEndless then none else Text.ofBytes? stream.text
  | .error _ => none

def contains (fs : Files) (path : String) : Bool := (fs.find workingPlace (pathBytes path)).isOk

def write? (fs : Files) (path text : String) : Option Files :=
  (fs.write workingPlace (pathBytes path) (Text.bytes text)).toOption

def writeDeep? (fs : Files) (path text : String) : Option Files :=
  let names := ((pathBytes path).splitOn "/").dropLast
  match fs.makeDirectories (if path.startsWith "/" then [] else workingPlace) names with
  | .ok fs => fs.write? path text
  | .error _ => none

def ofList (entries : List (String × String)) : Files :=
  entries.foldl (fun fs (path, text) => (fs.writeDeep? path text).getD fs) empty

def shown (fs : Files) : List Char :=
  match fs.node? ["dev", "stdout"] with
  | some (.console written) => written
  | _ => []

end Files

end PassTuner
