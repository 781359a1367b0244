import FaceFraming.Host.Disk

/-!
# What the program asks of its host

The command-line program reaches the world only through a `Host`: environment variables, what a
path names, the bytes of a file, creating and writing a file, and standard input. The program is
written once against this interface, for any monad; the in-memory host below runs it on a `Disk`,
with a fixed environment, as a plain state computation.
-/

namespace FaceFraming

/-- The operations of the world the program uses. -/
structure Host (m : Type → Type) where
  /-- The value of an environment variable. -/
  envVar : String → m (Option String)
  /-- What a path names. -/
  probe : String → m PathState
  /-- The bytes of the file a path names, or why it cannot be read. -/
  read : String → m (Except IoFault ByteArray)
  /-- Creates or empties the file a path names, telling whether it has room for bytes. -/
  create : String → m (Except IoFault Room)
  /-- Replaces the bytes of a file created before. -/
  write : String → ByteArray → m Unit
  /-- What standard input has left, which reading spends. -/
  input : m ByteArray

namespace Host

/-- A host in memory: the given environment, and a disk with standard input as state. -/
def memory (env : List (String × String)) : Host (StateM Disk) where
  envVar k := pure (env.lookup k)
  probe p := do return (← get).probe p
  read p := modifyGet fun d => d.readOut p
  create p := do
    match (← get).create p with
    | .ok (sink, d) => set d; return .ok sink.room
    | .error e => return .error e
  write p bs := modify fun d => match d.create p with
    | .ok (sink, d) => d.write sink bs
    | .error _ => d
  input := modifyGet fun d => d.readInput

end Host

end FaceFraming
