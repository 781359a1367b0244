import FaceFraming.Cli.Arguments
import FaceFraming.Cli.Failure
import FaceFraming.Config.EnvFile
import FaceFraming.Config.Environment
import FaceFraming.Config.Load
import FaceFraming.Replay.Session

/-!
# The replay command

What the command does, against any host:

1. It applies the environment file `.env` of the working directory, if there is one: each
   assignment sets its variable unless the variable is already set, references standing for the
   variables as set at that point (unset ones for nothing). A value to be set that holds a NUL
   character aborts the command.
2. It reads its arguments; help is printed on standard output, a refusal on standard error with
   status 2.
3. It takes the tracking configuration from the file given with `--config`, else from the
   environment, and the replay settings from the environment, overridden by `--fps` (which must be
   above zero), `--width`, `--height`, `--layout` and `--changes-only`.
4. It sets up the stream: passed through with `--passthrough`, else tracked, with the overlay on
   when its sentinel exists or `--overlay-out` is given and widest-face tracking on when its
   sentinel exists or `--widest-face` is given.
5. It creates the overlay file, opens the recording, replays it printing each frame's report,
   writes the overlay frames, and with `--metrics` prints the tally on standard error.

A failing step ends the command with status 1 and its failure on standard error; what was printed
before stays printed.
-/

namespace FaceFraming.Cli

/-- What the command leaves: its status and what it printed. -/
structure Outcome where
  /-- The exit status. -/
  status : Nat
  /-- What was printed on standard output. -/
  stdout : String := ""
  /-- What was printed on standard error. -/
  stderr : String := ""

/-- The chain of messages of an engine error. -/
def EngineError.chain (e : EngineError) : List String :=
  e.message :: e.cause?.toList

/-- Applies the assignments of an environment file: the variables it sets, in order, or the abort
of a value holding a NUL character. -/
def applyAssignments [Monad m] (h : Host m) (as : List Assignment) :
    ExceptT Abort m (List (String × String)) :=
  as.foldlM (fun set a => do
    let value ← a.value.foldlM (fun acc p => match p with
      | .text s => pure (acc ++ s)
      | .reference n => do
        match ← h.envVar n with
        | some v => pure (acc ++ v)
        | none => pure (acc ++ (set.lookup n).getD "")) ""
    if (← h.envVar a.key).isSome ∨ (set.lookup a.key).isSome then pure set
    else if value.contains '\x00' then throw ⟨a.key, value⟩
    else pure (set ++ [(a.key, value)])) []

/-- The variables set by the environment file of the working directory, or the abort it causes. -/
def environmentFile [Monad m] (h : Host m) : ExceptT Abort m (List (String × String)) := do
  match ← (h.probe ".env" : m _) with
  | .file =>
    match ← (h.read ".env" : m _) with
    | .ok bs => applyAssignments h (EnvFile.parse bs.toList)
    | .error _ => pure []
  | _ => pure []

/-- Everything a replay needs: the replay with its stream, the overlay file, and the recording's
bytes or the fault of reading it. -/
structure Setup where
  /-- The replay. -/
  replayer : Replayer
  /-- Where overlay frames go. -/
  overlayPath : Option String
  /-- The recording, or why it cannot be read. -/
  recording : Except IoFault ByteArray

/-- Sets up a replay from the options, or the failure that prevents it. -/
def setup [Monad m] (h : Host m) (env : String → Option String) (o : Options) :
    ExceptT Failure m Setup := do
  let tracking ← match o.config with
    | some path => do
      match ← (TrackingConfig.load h path : m _) with
      | .ok c => pure c
      | .error e => throw ⟨"Failed to load tracking config " ++ path, EngineError.chain e⟩
    | none => pure (TrackingConfig.ofEnv env)
  let settings := ReplaySettings.ofEnv env
  let settings ← match o.fps with
    | some f =>
      if f > 0.0 then pure { settings with defaultFps := f }
      else throw ⟨"--fps must be positive", []⟩
    | none => pure settings
  let settings := { settings with
    frameWidth := o.width.getD settings.frameWidth
    frameHeight := o.height.getD settings.frameHeight
    layout := o.layout.getD settings.layout
    changesOnly := settings.changesOnly || o.changesOnly }
  let processor ← if o.passthrough then pure Processor.passthrough
    else do
      let found ← (Switches.detect h tracking : m _)
      let switches : Switches := ⟨found.drawOverlay || o.overlayOut.isSome, found.widestFace || o.widestFace⟩
      match Tracker.create tracking switches with
      | .ok t => pure (.tracking t)
      | .error e => throw ⟨"Invalid tracking config", EngineError.chain e⟩
  let overlay ← match o.overlayOut with
    | some p => do
      match ← (h.create p : m _) with
      | .ok room => pure (some ({ room } : BufferedSink))
      | .error f => throw ⟨"Failed to create " ++ p, [f.message]⟩
    | none => pure none
  let recording ← if o.input = "-" then do pure (.ok (← (h.input : m _)))
    else do
      let opened := fun (f : IoFault) => Failure.mk ("Failed to open " ++ o.input) [f.message]
      match ← (h.probe o.input : m _) with
      | .file => pure (← (h.read o.input : m _))
      | .directory => pure (.error .isDirectory)
      | .missing => throw (opened .notFound)
      | .underFile => throw (opened .notDirectory)
  return ⟨{ processor, settings, overlay }, o.overlayOut, recording⟩

/-- The failure of a replay that could not read its recording or write its overlay frames. -/
def replayFailed (f : IoFault) : Failure :=
  ⟨"Replay failed", ["IO error: " ++ f.message, f.message]⟩

/-- Runs a replay that is set up: prints the reports, writes the overlay frames, and prints the
tally when asked. -/
def replay [Monad m] (h : Host m) (s : Setup) (metrics : Bool) : m Outcome := do
  match s.recording with
  | .error f => return { status := 1, stderr := (replayFailed f).render }
  | .ok bs =>
    let o := s.replayer.run bs.toList
    match s.overlayPath, o.replayer.overlay with
    | some p, some sink => h.write p sink.bytes
    | _, _ => pure ()
    match o.failure with
    | some f => return { status := 1, stdout := o.text, stderr := (replayFailed f).render }
    | none =>
      let tally := (o.replayer.processor.tracker?.map (·.tally)).getD {}
      return { status := 0, stdout := o.text, stderr := if metrics then tally.render ++ "\n" else "" }

/-- Runs the command with its arguments. -/
def run [Monad m] (h : Host m) (args : List String) : m Outcome := do
  match ← (environmentFile h).run with
  | .error a => return { status := Abort.status, stderr := a.render }
  | .ok fromFile =>
  match readArguments args with
  | .error .help => return { status := 0, stdout := helpText }
  | .error (.refused e) => return { status := 2, stderr := e.render }
  | .ok o =>
    let values ← settingVariables.mapM fun k => do
      match ← h.envVar k with
      | some v => pure (k, some v)
      | none => pure (k, fromFile.lookup k)
    let env := fun k => (values.lookup k).join
    match ← (setup h env o).run with
    | .error f => return { status := 1, stderr := f.render }
    | .ok s => replay h s o.metrics

end FaceFraming.Cli
