import FaceFraming.Framing.Phase
import FaceFraming.Double.Layout

/-!
# The tally of a tracked stream

What tracking counts while it runs: crops recomputed, phases entered, tracking targets revised,
detection documents that could not be read, and the last measured frame rate. `Tally.render`
writes it in the Prometheus text format, one block per quantity that was ever touched (a count
above zero, a rate once measured), each block a type line, its sample lines and an empty line.
-/

namespace FaceFraming

/-- Counts kept while tracking a stream. -/
structure Tally where
  /-- Crops recomputed by the planner. -/
  cropUpdates : Nat := 0
  /-- The phases entered, the latest first. -/
  entered : List Phase := []
  /-- Tracking targets revised. -/
  targetUpdates : Nat := 0
  /-- Detection documents that could not be read. -/
  unreadable : Nat := 0
  /-- The last measured frame rate. -/
  fps : Option Float := none

namespace Tally

/-- Counts a plan: a recomputed crop, and the phase entered if it changed. -/
def notePlan (y : Tally) (before after : Phase) (recomputed : Bool) : Tally :=
  { y with cropUpdates := y.cropUpdates + (if recomputed then 1 else 0),
           entered := if before = after then y.entered else after :: y.entered }

/-- The type line and samples of one quantity. -/
def block (name kind : String) (samples : List String) : String :=
  "# TYPE " ++ name ++ " " ++ kind ++ "\n" ++ String.join (samples.map (· ++ "\n")) ++ "\n"

/-- A counter's block, when it was ever incremented. -/
def counter (name : String) (n : Nat) : String :=
  if n = 0 then "" else block name "counter" [name ++ " " ++ toString n]

/-- The Prometheus text of the tally. -/
def render (t : Tally) : String :=
  let name := "autoptz_state_transitions_total"
  let phases := Phase.all.filter (t.entered.contains ·)
  let transitions :=
    if phases.isEmpty then ""
    else block name "counter" (phases.map fun p =>
      name ++ "\x7bto=\"" ++ p.name ++ "\"\x7d " ++ toString (t.entered.count p))
  let fps := match t.fps with
    | some f => block "autoptz_fps" "gauge" ["autoptz_fps " ++ Double.Layout.plain.render f]
    | none => ""
  counter "autoptz_crop_updates_total" t.cropUpdates ++ fps ++ counter
    "autoptz_metadata_parse_failures_total" t.unreadable ++ transitions ++
    counter "autoptz_target_updates_total" t.targetUpdates

end Tally

end FaceFraming
