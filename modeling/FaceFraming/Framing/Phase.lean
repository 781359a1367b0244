/-!
# Phases of the framing loop

The framing loop is always in one of four phases: `normal` (following the scene, zooming in while
a target is seen), `zoomIn` (fully zoomed on the target), `panAndTilt` (moving toward a new aim
point) and `zoomOut` (backing out after the target was lost). The last two are the phases in
which the view is moving.

A phase is written by its name (`normal`, `zoom_in`, `pan_and_tilt`, `zoom_out`). `Phase.ofName?`
reads a name exactly; `Phase.parse` reads it ignoring case and also accepts `pan_tilt`, and names
what it could not read in its error.
-/

namespace FaceFraming

/-- A phase of the framing loop. -/
inductive Phase where
  | normal
  | zoomIn
  | panAndTilt
  | zoomOut
  deriving Repr, DecidableEq, Inhabited

namespace Phase

/-- The written name of a phase. -/
def name : Phase → String
  | .normal => "normal"
  | .zoomIn => "zoom_in"
  | .panAndTilt => "pan_and_tilt"
  | .zoomOut => "zoom_out"

/-- The view moves while panning or zooming out. -/
def isMoving : Phase → Bool
  | .panAndTilt | .zoomOut => true
  | .normal | .zoomIn => false

/-- Every phase. -/
def all : List Phase :=
  [.normal, .zoomIn, .panAndTilt, .zoomOut]

/-- The phase with exactly this name. -/
def ofName? (s : String) : Option Phase :=
  all.find? (·.name == s)

/-- A name that `parse` could not read. -/
structure ParseError where
  /-- The text as given. -/
  text : String
  deriving Repr, DecidableEq

/-- The wording of a parse error. -/
def ParseError.message (e : ParseError) : String :=
  "Unknown zoom state: " ++ e.text

/-- Reads a phase name ignoring case; `pan_tilt` also names `panAndTilt`. -/
def parse (s : String) : Except ParseError Phase :=
  let t := s.toLower
  if t = "pan_tilt" then .ok .panAndTilt
  else match ofName? t with
    | some p => .ok p
    | none => .error ⟨s⟩

end Phase

end FaceFraming
