import FaceFraming.Cli.Arguments
import FaceFraming.Cli.Failure
import FaceFraming.Cli.Program
import FaceFraming.Config.EnvFile
import FaceFraming.Config.Environment
import FaceFraming.Config.Load
import FaceFraming.Config.Switches
import FaceFraming.Config.Tracking
import FaceFraming.Detection
import FaceFraming.Double.Bits
import FaceFraming.Double.Layout
import FaceFraming.Double.Nearest
import FaceFraming.Double.Shortest
import FaceFraming.Error
import FaceFraming.Frame.Buffer
import FaceFraming.Frame.Geometry
import FaceFraming.Frame.Layout
import FaceFraming.Frame.Overlay
import FaceFraming.Framing.Pan
import FaceFraming.Framing.Phase
import FaceFraming.Framing.Planner
import FaceFraming.Framing.Remap
import FaceFraming.Framing.Target
import FaceFraming.Geometry.Crop
import FaceFraming.Geometry.Face
import FaceFraming.Host.Access
import FaceFraming.Host.Buffered
import FaceFraming.Host.Disk
import FaceFraming.Json.Error
import FaceFraming.Json.Number
import FaceFraming.Json.Quoted
import FaceFraming.Json.Reader
import FaceFraming.Json.Scan
import FaceFraming.Json.Shape
import FaceFraming.Json.Value
import FaceFraming.Json.Writer
import FaceFraming.Main
import FaceFraming.Rate.Control
import FaceFraming.Rate.Curve
import FaceFraming.Rate.Estimator
import FaceFraming.Rate.Tier
import FaceFraming.Replay.Record
import FaceFraming.Replay.Session
import FaceFraming.Replay.Settings
import FaceFraming.Smoothing.Smoother
import FaceFraming.Smoothing.Window
import FaceFraming.Stream.Processor
import FaceFraming.Telemetry.Tally
import FaceFraming.Text.Numeral
import FaceFraming.Text.Quote
import FaceFraming.Text.Alphanumeric
import FaceFraming.Text.Space
import FaceFraming.Text.Utf8
import FaceFraming.Tracking.Tracker
import FaceFraming.Word
import FaceFraming.Proofs.Planner.Run
import FaceFraming.Proofs.Planner.CropFits
import FaceFraming.Proofs.Double.Fields
import FaceFraming.Proofs.Double.Magnitude
import FaceFraming.Proofs.Planner.Levels
import FaceFraming.Proofs.Smoothing.Gate
import FaceFraming.Proofs.Planner.Settling
import FaceFraming.Proofs.Planner.Glide
import FaceFraming.Proofs.Tracking.Run
import FaceFraming.Proofs.Tracking.Reporting
import FaceFraming.Proofs.Tracking.Window
import FaceFraming.Proofs.Tracking.Countdown
import FaceFraming.Proofs.Tracking.Steady
import FaceFraming.Proofs.Replay.Summary
import FaceFraming.Checked
import FaceFraming.Framing.Checked
import FaceFraming.Proofs.Planner.Overflow
import FaceFraming.Tracking.Checked
import FaceFraming.Proofs.Tracking.Bounds
import FaceFraming.Proofs.Tracking.Overflow
import FaceFraming.Proofs.Smoothing.Words
import FaceFraming.Proofs.Smoothing.Window
import FaceFraming.Proofs.Planner.Changed
import FaceFraming.Proofs.Framing.Remap
import FaceFraming.Proofs.Frame.Offsets
import FaceFraming.Proofs.Geometry.Around
import FaceFraming.Proofs.Geometry.Union
import FaceFraming.Proofs.Frame.Outline
import FaceFraming.Proofs.Double.Positive
import FaceFraming.Proofs.Rate.Estimator
import FaceFraming.Proofs.Detection.Faces
