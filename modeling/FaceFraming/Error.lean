import FaceFraming.Json.Error

/-!
# Errors of the engine

What can go wrong while configuring the engine or handing it a frame: an invalid configuration, a
frame without dimensions, a buffer smaller than its layout, a configuration file that is missing,
unreadable or not a valid document. `EngineError.message` gives the one wording of each.

`IoFault` names the failures of the file system and of reading text that the library reports,
worded as the operating system words them.
-/

namespace FaceFraming

/-- A failure of the file system or of reading text. -/
inductive IoFault where
  /-- No file or directory at the path. -/
  | notFound
  /-- The path names a directory where a file was wanted. -/
  | isDirectory
  /-- A component of the path is a file where a directory was wanted. -/
  | notDirectory
  /-- The bytes read are not UTF-8. -/
  | invalidUtf8
  /-- The device written to has no space left. -/
  | noSpace
  deriving Repr, DecidableEq

/-- The wording of a file-system failure. -/
def IoFault.message : IoFault → String
  | .notFound => "No such file or directory (os error 2)"
  | .isDirectory => "Is a directory (os error 21)"
  | .notDirectory => "Not a directory (os error 20)"
  | .invalidUtf8 => "stream did not contain valid UTF-8"
  | .noSpace => "No space left on device (os error 28)"

/-- An error of the engine. -/
inductive EngineError where
  /-- A configuration value out of its range, with the reason. -/
  | invalidConfig (reason : String)
  /-- A frame with a zero dimension. -/
  | invalidDimensions (width height : Nat)
  /-- A buffer shorter than its layout needs. -/
  | bufferTooSmall (required actual : Nat)
  /-- No configuration file at the path. -/
  | configNotFound (path : String)
  /-- The configuration file could not be read. -/
  | io (fault : IoFault)
  /-- The configuration document could not be decoded. -/
  | json (e : Json.Error)

namespace EngineError

/-- The wording of an engine error. -/
def message : EngineError → String
  | .invalidConfig r => "Invalid configuration: " ++ r
  | .invalidDimensions w h => "Invalid frame dimensions: " ++ toString w ++ "x" ++ toString h
  | .bufferTooSmall r a =>
    "Frame buffer too small: " ++ toString a ++ " bytes, layout needs " ++ toString r
  | .configNotFound p => "Config file not found: " ++ p
  | .io f => "IO error: " ++ f.message
  | .json e => "JSON parse error: " ++ e.message

/-- The error's own cause, as a chain of messages names it: the file-system failure or the decoding
error behind it. -/
def cause? : EngineError → Option String
  | .io f => some f.message
  | .json e => some e.message
  | _ => none

end EngineError

end FaceFraming
