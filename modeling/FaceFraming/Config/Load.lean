import FaceFraming.Config.Tracking
import FaceFraming.Config.Switches
import FaceFraming.Host.Access
import FaceFraming.Text.Utf8

/-!
# Loading settings through the host

A configuration file is read in four steps, each with its own failure: the path must name
something (else the file is not found), its bytes must be readable (a directory is not) and be
UTF-8, the text must be a configuration document, and the configuration must validate.

The debug switches are on when their sentinel paths name anything at all.
-/

namespace FaceFraming

/-- Whether a path names a file or a directory. -/
def PathState.exists : PathState → Bool
  | .file | .directory => true
  | _ => false

/-- Loads and checks the configuration file a path names. -/
def TrackingConfig.load [Monad m] (h : Host m) (path : String) :
    m (Except EngineError TrackingConfig) := do
  if !(← h.probe path).exists then return .error (.configNotFound path)
  match ← h.read path with
  | .error f => return .error (.io f)
  | .ok bs =>
    match Utf8.toString? bs.toList with
    | none => return .error (.io .invalidUtf8)
    | some text =>
      match TrackingConfig.ofText text with
      | .error e => return .error (.json e)
      | .ok c => return c.validate.map fun _ => c

/-- The switches whose sentinel paths exist. -/
def Switches.detect [Monad m] (h : Host m) (c : TrackingConfig) : m Switches := do
  return ⟨(← h.probe c.overlayFlagPath).exists, (← h.probe c.widestFaceFlagPath).exists⟩

end FaceFraming
