import FaceFraming.Error

/-!
# An in-memory disk

A disk holds files (their bytes) and directories under paths relative to the working directory.
Paths are resolved the way the operating system resolves them: component by component from the
working directory (or from the root for an absolute path), empty and `.` components staying put,
`..` going up, every component but the last having to be a directory, and a trailing slash asking
for a directory. Directories are those recorded as such and every directory above a recorded
entry; the working directory always exists. Above the working directory nothing is known but that
the directories there exist. From the root, the system directories and files `HostEntry.known`
lists exist: `/dev/null`, which reads as empty and takes in any bytes written to it, `/dev/full`,
which has no room for a single byte, `/dev/stdin`, standard input, the devices that read without
end, and the account list `/etc/passwd`, text that is not a recording. Of the directories only
`/tmp` takes new files. Standard input is read once: whatever reads it first spends it.

The empty path names nothing. Creating a file truncates it if it exists. It fails under a missing
directory and under a file (checked first, component by component), and on a directory: a name
that ends in a slash, `.` or `..`, the root, or an existing directory.
-/

namespace FaceFraming

/-- What a path names. -/
inductive PathState where
  /-- A file. -/
  | file
  /-- A directory. -/
  | directory
  /-- Nothing. -/
  | missing
  /-- A component on the way is a file. -/
  | underFile
  deriving Repr, DecidableEq

/-- A recorded entry of a disk. -/
inductive Entry where
  /-- A file with its bytes. -/
  | file (bytes : ByteArray)
  /-- A directory. -/
  | directory

/-- What the host has at an absolute path. -/
inductive HostEntry where
  /-- A directory. -/
  | directory
  /-- The null device: empty when read, and it takes in whatever is written. -/
  | nullDevice
  /-- The full device: it refuses every byte written, having no room; read, it is taken as
  empty. -/
  | fullDevice
  /-- A device read without end (zeros, random bytes) that takes in whatever is written; a read
  of it never finishes, and it is taken as empty. -/
  | endlessDevice
  /-- Standard input: reading it spends what it has left. -/
  | standardInput
  /-- A file of text. -/
  | text (contents : String)
  deriving Repr, DecidableEq

/-- The absolute paths every host has, by their components. -/
def HostEntry.known : List (List String × HostEntry) :=
  [([], .directory), (["dev"], .directory), (["dev", "null"], .nullDevice),
   (["dev", "full"], .fullDevice), (["dev", "random"], .endlessDevice),
   (["dev", "stdin"], .standardInput), (["dev", "urandom"], .endlessDevice),
   (["dev", "zero"], .endlessDevice), (["etc"], .directory),
   (["etc", "passwd"], .text "root:x:0:0:root:/root:/bin/sh\n"), (["proc"], .directory),
   (["sys"], .directory), (["tmp"], .directory), (["usr"], .directory), (["var"], .directory)]

/-- The bytes a file of the host reads as, given what standard input has left. -/
def HostEntry.contents (input : ByteArray) : HostEntry → ByteArray
  | .text s => s.toUTF8
  | .standardInput => input
  | _ => ByteArray.empty

/-- Whether new files can be made in a directory of the host, by its components. -/
def HostEntry.takesFiles (parts : List String) : Bool :=
  parts = ["tmp"]

/-- Files and directories under the working directory, by their component lists, and what
standard input has left to read. -/
structure Disk where
  /-- The recorded entries, the latest first. -/
  entries : List (List String × Entry) := []
  /-- What standard input has left. -/
  input : ByteArray := ByteArray.empty

/-- A place a path can lead to: a location under the working directory, a location above it with
the components still to go once there, or a location from the root. -/
inductive Place where
  /-- Under the working directory, at these components. -/
  | inside (parts : List String)
  /-- Above the working directory; `parts` below the directory reached there. -/
  | outside (parts : List String)
  /-- From the root, at these components. -/
  | root (parts : List String)
  deriving Repr, DecidableEq

/-- One step of a walk: into a component, staying for `.` or empty, up for `..` (the root is its
own parent). -/
def Place.step : Place → String → Place
  | p, "" => p
  | p, "." => p
  | .inside [], ".." => .outside []
  | .inside parts, ".." => .inside parts.dropLast
  | .outside parts, ".." => .outside parts.dropLast
  | .root parts, ".." => .root parts.dropLast
  | .inside parts, c => .inside (parts ++ [c])
  | .outside parts, c => .outside (parts ++ [c])
  | .root parts, c => .root (parts ++ [c])

/-- The fault of a path that does not name a file. -/
def PathState.fault : PathState → IoFault
  | .directory => .isDirectory
  | .underFile => .notDirectory
  | _ => .notFound

/-- Whether a created file has room for the bytes written to it. -/
inductive Room where
  /-- It takes every byte. -/
  | available
  /-- It refuses every byte: no space is left on the device. -/
  | exhausted
  deriving Repr, DecidableEq

/-- Where bytes written to a created file go. -/
inductive Sink where
  /-- Into the file at this location of the working directory. -/
  | file (parts : List String)
  /-- Nowhere: the null device, or a system file. -/
  | discard
  /-- Nowhere, refused: the full device. -/
  | full
  deriving Repr, DecidableEq

/-- Whether a sink has room for bytes. -/
def Sink.room : Sink → Room
  | .full => .exhausted
  | _ => .available

/-- Where bytes written to a file of the host go. -/
def HostEntry.sink : HostEntry → Sink
  | .fullDevice => .full
  | _ => .discard

/-- The entry of the host a place names, if it names one. -/
def Place.known? : Place → Option HostEntry
  | .root parts => HostEntry.known.lookup parts
  | _ => none

namespace Disk

/-- The entry recorded at a location. -/
def entryAt? (d : Disk) (parts : List String) : Option Entry :=
  (d.entries.find? (·.1 = parts)).map (·.2)

/-- What is at a location of the working directory. -/
def stateAt (d : Disk) (parts : List String) : PathState :=
  if parts.isEmpty then .directory
  else match d.entryAt? parts with
    | some (.file _) => .file
    | some .directory => .directory
    | none =>
      if d.entries.any fun (p, _) => parts.length < p.length ∧ p.take parts.length = parts then
        .directory
      else .missing

/-- What is at a place. -/
def stateOf (d : Disk) : Place → PathState
  | .inside parts => d.stateAt parts
  | .outside parts => if parts.isEmpty then .directory else .missing
  | .root parts => match Place.known? (.root parts) with
    | some .directory => .directory
    | some _ => .file
    | none => .missing

/-- Walks the components of a path from a place: each place left behind must be a directory. -/
def walk (d : Disk) : Place → List String → Place ⊕ PathState
  | p, [] => .inl p
  | p, c :: rest =>
    match d.stateOf p with
    | .directory => walk d (p.step c) rest
    | .file => .inr .underFile
    | s => .inr s

/-- Where a path starts and its components. -/
def start (path : String) : Place × List String :=
  let parts := path.splitOn "/"
  if path.startsWith "/" then (.root [], parts) else (.inside [], parts)

/-- What a path names. -/
def probe (d : Disk) (path : String) : PathState :=
  let (p, parts) := start path
  if path.isEmpty then .missing
  else match d.walk p parts with
  | .inr s => s
  | .inl place =>
    match d.stateOf place with
    | .file => if path.endsWith "/" then .underFile else .file
    | s => s

/-- The bytes of the file a path names, or why it cannot be read. -/
def read (d : Disk) (path : String) : Except IoFault ByteArray :=
  let (p, parts) := start path
  if path.isEmpty then .error .notFound
  else match d.walk p parts with
  | .inr s => .error s.fault
  | .inl (.inside loc) =>
    match d.entryAt? loc with
    | some (.file bs) => if path.endsWith "/" then .error .notDirectory else .ok bs
    | _ => .error (d.stateAt loc).fault
  | .inl place =>
    match d.stateOf place with
    | .file =>
      if path.endsWith "/" then .error .notDirectory
      else .ok (((Place.known? place).map (HostEntry.contents d.input)).getD .empty)
    | s => .error s.fault

/-- Whether a path names standard input. -/
def namesInput (d : Disk) (path : String) : Bool :=
  let (p, parts) := start path
  !path.isEmpty && !path.endsWith "/" && match d.walk p parts with
    | .inl place => Place.known? place = some .standardInput
    | .inr _ => false

/-- Reads the file a path names, spending standard input when the path names it. -/
def readOut (d : Disk) (path : String) : Except IoFault ByteArray × Disk :=
  (d.read path, if d.namesInput path then { d with input := .empty } else d)

/-- Reads what standard input has left, spending it. -/
def readInput (d : Disk) : ByteArray × Disk :=
  (d.input, { d with input := .empty })

/-- Records an entry at a location, replacing what was there. -/
def put (d : Disk) (loc : List String) (e : Entry) : Disk :=
  { d with entries := (loc, e) :: d.entries.filter (·.1 ≠ loc) }

/-- A path's components split into those leading to its last name and that name, with whether a
slash follows it; no name for a path of slashes only. -/
def lastName (parts : List String) : List String × Option String × Bool :=
  let named := parts.reverse.dropWhile (· = "")
  match named with
  | [] => (parts, none, true)
  | last :: before => (before.reverse, some last, named.length < parts.length)

/-- Creates the file a path names, or empties it, and tells where its bytes go. -/
def create (d : Disk) (path : String) : Except IoFault (Sink × Disk) :=
  let (p, parts) := start path
  if path.isEmpty then .error .notFound
  else
    let (leading, name, slash) := lastName parts
    match d.walk p leading with
    | .inr s => .error s.fault
    | .inl parent =>
      match d.stateOf parent, name with
      | .directory, some last =>
        if slash ∨ last = "." ∨ last = ".." then .error .isDirectory
        else match parent.step last with
          | .inside loc =>
            if d.stateAt loc = .directory then .error .isDirectory
            else .ok (.file loc, d.put loc (.file ByteArray.empty))
          | place => match d.stateOf place, parent with
            | .directory, _ => .error .isDirectory
            | .file, _ => .ok (((Place.known? place).map HostEntry.sink).getD .discard, d)
            | _, .root dir => if HostEntry.takesFiles dir then .ok (.discard, d) else .error .notFound
            | _, _ => .error .notFound
      | .directory, none => .error .isDirectory
      | .file, _ => .error .notDirectory
      | s, _ => .error s.fault

/-- Writes bytes where a created file's bytes go. -/
def write (d : Disk) : Sink → ByteArray → Disk
  | .file loc, bs => d.put loc (.file bs)
  | _, _ => d

/-- The disk with the given files and directories, by path relative to the working directory. -/
def ofList (items : List (String × Entry)) : Disk :=
  items.foldl (fun d (path, e) =>
    d.put ((path.splitOn "/").filter fun c => c ≠ "" ∧ c ≠ ".") e) {}

end Disk

end FaceFraming
