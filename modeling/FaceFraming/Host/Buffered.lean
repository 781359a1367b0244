import FaceFraming.Error
import FaceFraming.Host.Disk

/-!
# Writing through a buffer

Bytes bound for a device first gather in a buffer of `bufferCapacity` bytes. A write that does
not fit beside what is buffered first passes the buffer on to the device; a write as large as the
whole buffer then goes to the device directly, and a smaller one is buffered. Flushing passes the
buffer on. A device with no room refuses every byte it is passed, so on it a write fails exactly
when it passes bytes on, and the buffer keeps them.

`BufferedSink.write` and `BufferedSink.flush` follow this rule; `bytes` keeps every byte accepted,
which is what the device ends up with when it has room.
-/

namespace FaceFraming

/-- The size of the buffer in front of a device. -/
def bufferCapacity : Nat := 8192

/-- Bytes written to a device through a buffer. -/
structure BufferedSink where
  /-- Whether the device has room. -/
  room : Room := .available
  /-- Every byte accepted so far, the buffered ones included. -/
  bytes : ByteArray := ByteArray.empty
  /-- How many of them wait in the buffer. -/
  buffered : Nat := 0

namespace BufferedSink

/-- Passes `n` bytes on to the device: refused by a device without room, unless there are none. -/
def pass (s : BufferedSink) (n : Nat) : Except IoFault Unit :=
  if s.room = .exhausted ∧ 0 < n then .error .noSpace else .ok ()

/-- Passes the buffer on to the device. -/
def flush (s : BufferedSink) : Except IoFault BufferedSink := do
  s.pass s.buffered
  return { s with buffered := 0 }

/-- Writes bytes: the buffer is passed on first when they do not fit beside it, and bytes as many
as the buffer holds go to the device directly. -/
def write (s : BufferedSink) (bs : ByteArray) : Except IoFault BufferedSink := do
  let s ← if s.buffered + bs.size > bufferCapacity then s.flush else pure s
  if bs.size ≥ bufferCapacity then
    s.pass bs.size
    return { s with bytes := s.bytes ++ bs }
  else return { s with bytes := s.bytes ++ bs, buffered := s.buffered + bs.size }

end BufferedSink

end FaceFraming
