import SerialConsole.Text.Utf8

/-!
# Files of a rehearsal

A small file system: regular files, directories and devices. A path is followed name by name from
the root or from the working directory, as far as directories lead; what it comes to is known by
the names on the shortest way from the root. Refusals are worded as the operating system words
them.
-/

namespace SerialConsole.Rehearsal

abbrev Place := List String

/-- What a name in a directory stands for. -/
inductive Entry where
  | file (bytes : Bytes)
  | directory
  | device
  | running
  deriving DecidableEq, Repr

inductive Refusal where
  | absent
  | notDirectory
  | isDirectory
  | tooLong
  | zeroCharacter
  | busy
  deriving DecidableEq, Repr

def Refusal.message : Refusal → String
  | .absent => "No such file or directory (os error 2)"
  | .notDirectory => "Not a directory (os error 20)"
  | .isDirectory => "Is a directory (os error 21)"
  | .tooLong => "File name too long (os error 36)"
  | .zeroCharacter => "file name contained an unexpected NUL byte"
  | .busy => "Text file busy (os error 26)"

def programBytes : Bytes := [0x7F, 0x45, 0x4C, 0x46, 0xFF]

def initialEntries : List (Place × Entry) :=
  let directories := [["bin"], ["boot"], ["dev"], ["dev", "shm"], ["etc"], ["home"], ["lib"],
    ["lib64"], ["media"], ["mnt"], ["opt"], ["proc"], ["proc", "self"], ["proc", "self", "cwd"],
    ["proc", "self", "fd"], ["proc", "self", "root"], ["proc", "sys"], ["root"], ["run"], ["sbin"],
    ["srv"], ["sys"], ["tmp"], ["usr"], ["usr", "bin"], ["usr", "lib"], ["usr", "local"],
    ["usr", "local", "bin"], ["usr", "share"], ["var"], ["var", "lib"], ["var", "log"],
    ["var", "tmp"]]
  let files := [(["etc", "group"], "root:x:0:\n"), (["etc", "hostname"], "vm\n"),
    (["etc", "hosts"], "127.0.0.1 localhost\n"), (["etc", "os-release"], "NAME=Linux\n"),
    (["etc", "passwd"], "root:x:0:0:root:/root:/bin/sh\n")]
  directories.map (·, .directory) ++ files.map (fun f => (f.1, .file (Text.bytesOf f.2))) ++
    [(["bin", "sh"], .file programBytes), (["dev", "null"], .device),
      (["proc", "self", "exe"], .running)]

structure Files where
  entries : List (Place × Entry) := initialEntries
  working : Place := ["root"]
  deriving Repr

def nameLimit : Nat := 255

def pathLimit : Nat := 4095

structure Destination where
  place : Place
  onlyDirectory : Bool
  deriving DecidableEq, Repr

namespace Files

def find (fs : Files) (place : Place) : Except Refusal (Option Entry) :=
  match place.getLast? with
  | none => .ok (some .directory)
  | some name =>
    if nameLimit < name.utf8ByteSize then .error .tooLong else .ok (fs.entries.lookup place)

def step (fs : Files) (place : Place) (name : String) : Except Refusal Place := do
  match ← fs.find place with
  | none => throw .absent
  | some .directory =>
    return if name = "." then place else if name = ".." then place.dropLast else place ++ [name]
  | some _ => throw .notDirectory

/-- Follows a path. What it leads to need not be there, but all that it leads through. -/
def follow (fs : Files) (path : String) : Except Refusal Destination := do
  if path.contains '\x00' then throw .zeroCharacter
  if path.isEmpty then throw .absent
  if pathLimit < path.utf8ByteSize then throw .tooLong
  let chars := path.toList
  let names := (path.splitOn "/").filter (· ≠ "")
  let start := if chars.head? = some '/' then [] else fs.working
  let place ← names.foldlM fs.step start
  let onlyDirectory := chars.getLast? = some '/' || names.getLast?.all fun n => n = "." || n = ".."
  return ⟨place, onlyDirectory⟩

def isFile (fs : Files) (path : String) : Bool :=
  match fs.follow path with
  | .ok ⟨place, false⟩ => match fs.find place with
    | .ok (some (.file _)) | .ok (some .running) => true
    | _ => false
  | _ => false

def read (fs : Files) (path : String) : Except Refusal Bytes := do
  let d ← fs.follow path
  match ← fs.find d.place with
  | none => throw .absent
  | some .directory => throw .isDirectory
  | some entry =>
    if d.onlyDirectory then throw .notDirectory
    else match entry with
      | .file bytes => return bytes
      | .running => return programBytes
      | _ => return []

def putAt (fs : Files) (place : Place) (bytes : Bytes) : Files :=
  { fs with entries := (place, .file bytes) :: fs.entries.filter (·.1 ≠ place) }

/-- Makes an empty file, or empties one that is there. No file is made among the processes. -/
def create (fs : Files) (path : String) : Except Refusal Files := do
  let d ← fs.follow path
  if d.onlyDirectory then throw .isDirectory
  match ← fs.find d.place with
  | none => if d.place.head? = some "proc" then throw .absent else return fs.putAt d.place []
  | some (.file _) => return fs.putAt d.place []
  | some .device => return fs
  | some .directory => throw .isDirectory
  | some .running => throw .busy

def append (fs : Files) (path : String) (bytes : Bytes) : Except Refusal Files := do
  let d ← fs.follow path
  if d.onlyDirectory then throw .isDirectory
  match ← fs.find d.place with
  | some (.file before) => return fs.putAt d.place (before ++ bytes)
  | some .device => return fs
  | some .directory => throw .isDirectory
  | some .running => throw .busy
  | none => throw .absent

def put (fs : Files) (path : String) (bytes : Bytes) : Files :=
  match fs.create path with
  | .ok made => match made.append path bytes with
    | .ok written => written
    | .error _ => made
  | .error _ => fs

end Files

end SerialConsole.Rehearsal
