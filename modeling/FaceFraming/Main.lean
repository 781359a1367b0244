import FaceFraming.Cli.Program

/-!
# The replay command on a machine

The program of `FaceFraming.Cli` run against the machine it is started on: environment variables,
files of the working directory, standard input. Failures of the file system are told apart by the
operating system's error code; whether a created file has room is learnt by writing one byte to it
and taking it back.
-/

namespace FaceFraming.Cli

/-- The fault an input/output error stands for. -/
def faultOf (e : IO.Error) : IoFault :=
  let s := toString e
  if (s.splitOn "code: 21").length > 1 then .isDirectory
  else if (s.splitOn "code: 20").length > 1 then .notDirectory
  else if (s.splitOn "code: 28").length > 1 then .noSpace
  else .notFound

/-- All the bytes left in a stream. -/
partial def readToEnd (s : IO.FS.Stream) (acc : ByteArray) : IO ByteArray := do
  let chunk ← s.read 65536
  if chunk.isEmpty then return acc else readToEnd s (acc ++ chunk)

/-- Whether an opened path is a file (it reads) or a directory (it does not). -/
def kindOf (h : IO.FS.Handle) : IO PathState := do
  try
    let _ ← h.read 1
    return .file
  catch _ => return .directory

/-- The machine as a host. -/
def machine : Host IO where
  envVar k := IO.getEnv k
  probe p := do
    if p.isEmpty then return .missing
    try
      let h ← IO.FS.Handle.mk p .read
      kindOf h
    catch e => return (if faultOf e = .notDirectory then .underFile else .missing)
  read p := do
    try return .ok (← IO.FS.readBinFile p)
    catch e => return .error (faultOf e)
  create p := do
    try IO.FS.writeBinFile p .empty
    catch e => return .error (faultOf e)
    -- one byte, written and taken back, tells whether the file has room
    try
      let h ← IO.FS.Handle.mk p .append
      h.write (ByteArray.mk #[0])
      h.flush
      IO.FS.writeBinFile p .empty
      return .ok .available
    catch e => return .ok (if faultOf e = .noSpace then .exhausted else .available)
  write p bs := do
    try IO.FS.writeBinFile p bs
    catch _ => pure ()
  input := do readToEnd (← IO.getStdin) .empty

end FaceFraming.Cli

/-- Runs the replay command. -/
def main (args : List String) : IO UInt32 := do
  let o ← FaceFraming.Cli.run FaceFraming.Cli.machine args
  let out ← IO.getStdout
  out.putStr o.stdout
  out.flush
  let err ← IO.getStderr
  err.putStr o.stderr
  err.flush
  return o.status.toUInt32
