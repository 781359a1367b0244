import FaceFraming.Frame.Layout
import FaceFraming.Text.Numeral
import FaceFraming.Word

/-!
# The command's arguments

The replay command takes one optional positional argument, the recording (`-`, the default, for
standard input), and these options: `-c`/`--config <CONFIG>`, `--fps <FPS>`, `--width <WIDTH>`,
`--height <HEIGHT>`, `--changes-only`, `--widest-face`, `--passthrough` (not together with
`--widest-face`), `--overlay-out <OVERLAY_OUT>`, `--layout <LAYOUT>`, `--metrics` and
`-h`/`--help`.

Arguments are read left to right. An option's value is attached (`--fps=5`, `-c5`, `-c=5`) or is
the next argument, unless that looks like an option itself; a value is checked when the next
option or positional argument arrives, or at the end. After `--` every argument is positional. An
option given twice, an unknown option, a missing or invalid value, a value for a flag, a second
positional argument and the two conflicting flags are refused, each with its own message; for an
unknown long option the most similar known one (by Jaro similarity above 0.7) is suggested.
-/

namespace FaceFraming.Cli

/-- The arguments of the command. -/
inductive Arg where
  | input
  | config
  | fps
  | width
  | height
  | changesOnly
  | widestFace
  | passthrough
  | overlayOut
  | layout
  | metrics
  | help
  deriving Repr, DecidableEq, Inhabited

namespace Arg

/-- The options, in the order they are declared. -/
def options : List Arg :=
  [.config, .fps, .width, .height, .changesOnly, .widestFace, .passthrough, .overlayOut, .layout,
   .metrics, .help]

/-- The long name of an argument. -/
def long : Arg → String
  | .input => ""
  | .config => "config"
  | .fps => "fps"
  | .width => "width"
  | .height => "height"
  | .changesOnly => "changes-only"
  | .widestFace => "widest-face"
  | .passthrough => "passthrough"
  | .overlayOut => "overlay-out"
  | .layout => "layout"
  | .metrics => "metrics"
  | .help => "help"

/-- The short name of an argument, if it has one. -/
def short? : Arg → Option Char
  | .config => some 'c'
  | .help => some 'h'
  | _ => none

/-- The name of an argument's value, for those that take one. -/
def valueName? : Arg → Option String
  | .input => some "INPUT"
  | .config => some "CONFIG"
  | .fps => some "FPS"
  | .width => some "WIDTH"
  | .height => some "HEIGHT"
  | .overlayOut => some "OVERLAY_OUT"
  | .layout => some "LAYOUT"
  | _ => none

/-- Whether an option takes a value. -/
def takesValue (a : Arg) : Bool :=
  a.valueName?.isSome

/-- How messages name an argument. -/
def display : Arg → String
  | .input => "[INPUT]"
  | a => "--" ++ a.long ++ (match a.valueName? with
    | some v => " <" ++ v ++ ">"
    | none => "")

/-- What the help says of an argument. -/
def about : Arg → String
  | .input => "JSON-lines recording, `-` for stdin [default: -]"
  | .config => "Tracking config (JSON); defaults come from AUTOPTZ_* variables"
  | .fps => "Frame rate for records without timestamps"
  | .width => "Frame width for records without one"
  | .height => "Frame height for records without one"
  | .changesOnly => "Only print frames whose crop changed"
  | .widestFace => "Track the largest face instead of all faces"
  | .passthrough => "Disable tracking and pass frames through"
  | .overlayOut => "Write raw YUV frames with face boxes drawn to this file"
  | .layout => "Pixel layout of overlay frames (nv12, nv16)"
  | .metrics => "Print Prometheus metrics to stderr when done"
  | .help => "Print help"

/-- The option with a long name. -/
def ofLong? (name : String) : Option Arg :=
  options.find? (·.long = name)

/-- The option with a short name. -/
def ofShort? (c : Char) : Option Arg :=
  options.find? (·.short? = some c)

end Arg

/-- What the command was asked to do with. -/
structure Options where
  /-- The recording, `-` for standard input. -/
  input : String := "-"
  /-- The configuration file. -/
  config : Option String := none
  /-- The frame rate of frames without a time. -/
  fps : Option Float := none
  /-- The width of frames without one. -/
  width : Option Nat := none
  /-- The height of frames without one. -/
  height : Option Nat := none
  /-- Print only changed crops. -/
  changesOnly : Bool := false
  /-- Track the largest face. -/
  widestFace : Bool := false
  /-- Pass frames through. -/
  passthrough : Bool := false
  /-- Where to write overlay frames. -/
  overlayOut : Option String := none
  /-- The layout of overlay frames. -/
  layout : Option PixelLayout := none
  /-- Print the metrics at the end. -/
  metrics : Bool := false

/-- Why the arguments are refused. -/
inductive UsageError where
  /-- An argument that is not known, with a similar option, whether to hint at `--`, and the
  arguments taken so far. -/
  | unknown (arg : String) (similar : Option String) (asValue : Bool) (used : List Arg)
  /-- An option without its value. -/
  | missingValue (a : Arg)
  /-- A value its option does not accept, with the reason. -/
  | invalidValue (a : Arg) (value reason : String)
  /-- An option given twice. -/
  | repeated (a : Arg)
  /-- Two options that exclude each other, with the arguments taken. -/
  | conflict (a b : Arg) (used : List Arg)
  /-- A value given to a flag, with the arguments taken before it. -/
  | unexpectedValue (value : String) (a : Arg) (taken : List Arg)

/-- The name of the program. -/
def programName : String := "autoptz-replay"

/-- The usage line: the plain one, or one naming the arguments taken. -/
def usage (used : List Arg) : String :=
  if used.isEmpty then "Usage: " ++ programName ++ " [OPTIONS] [INPUT]"
  else
    let opts := (used.filter (· ≠ .input)).eraseDups
    "Usage: " ++ programName ++ String.join (opts.map fun a => " " ++ a.display) ++
      (if used.contains .input then " <INPUT>" else " [INPUT]")

/-- The arguments other than help, as one alternative: the positional one by its value's name,
the options as messages name them. -/
def argumentGroup : String :=
  "<" ++ "|".intercalate ((Arg.input :: Arg.options.filter (· ≠ .help)).map fun a =>
    if a = .input then "INPUT" else a.display) ++ ">"

/-- The usage line for a value given to a flag: the flag alone while no argument has been taken;
after that every argument but help stands in one alternative, help named before it. -/
def flagUsage (taken : List Arg) (a : Arg) : String :=
  if taken.isEmpty then usage [a]
  else "Usage: " ++ programName ++ (if a = .help then " --help" else "") ++ " " ++ argumentGroup

/-- The message of a refusal, as printed. -/
def UsageError.render (e : UsageError) : String :=
  let q := fun (s : String) => "'" ++ s ++ "'"
  let body := match e with
    | .unknown arg similar asValue used =>
      "unexpected argument " ++ q arg ++ " found" ++
      (match similar with
        | some s => "\n\n  tip: a similar argument exists: " ++ q s
        | none => "") ++
      (if asValue then "\n\n  tip: to pass " ++ q arg ++ " as a value, use " ++ q ("-- " ++ arg)
       else "") ++ "\n\n" ++ usage used
    | .missingValue a => "a value is required for " ++ q a.display ++ " but none was supplied"
    | .invalidValue a v reason => "invalid value " ++ q v ++ " for " ++ q a.display ++ ": " ++ reason
    | .repeated a => "the argument " ++ q a.display ++ " cannot be used multiple times\n\n" ++ usage []
    | .conflict a b used =>
      "the argument " ++ q a.display ++ " cannot be used with " ++ q b.display ++ "\n\n" ++ usage used
    | .unexpectedValue v a taken =>
      "unexpected value " ++ q v ++ " for " ++ q a.display ++ " found; no more were expected\n\n" ++
        flagUsage taken a
  "error: " ++ body ++ "\n\nFor more information, try '--help'.\n"

/-- The help text. -/
def helpText : String :=
  let spec := fun (a : Arg) => match a.short? with
    | some c => "-" ++ String.singleton c ++ ", " ++ a.display
    | none => "    " ++ a.display
  let block := fun (rows : List (String × String)) =>
    let width := rows.foldl (fun w r => max w r.1.length) 0
    String.join (rows.map fun (s, about) =>
      "  " ++ s ++ String.ofList (List.replicate (width - s.length + 2) ' ') ++ about ++ "\n")
  "Replay face metadata through the auto-PTZ engine\n\nUsage: " ++ programName ++
    " [OPTIONS] [INPUT]\n\nArguments:\n" ++ block [(Arg.input.display, Arg.input.about)] ++
    "\nOptions:\n" ++ block (Arg.options.map fun a => (spec a, a.about))

/-- Why a value is not accepted by its option, if it is not. -/
def Arg.check (a : Arg) (v : String) : Option UsageError :=
  match a with
  | .config | .overlayOut => if v.isEmpty then some (.missingValue a) else none
  | .fps =>
    if v.isEmpty then some (.invalidValue a v "cannot parse float from empty string")
    else if (Numeral.parseDecimal? v).isSome then none
    else some (.invalidValue a v "invalid float literal")
  | .width | .height =>
    match Numeral.parseInteger Word.i64Min Word.i64Max v with
    | .error e => some (.invalidValue a v e.message)
    | .ok i =>
      if 0 ≤ i ∧ i ≤ Word.u32Max then none
      else some (.invalidValue a v (toString i ++ " is not in 0..=" ++ toString Word.u32Max))
  | .layout =>
    match PixelLayout.parse v with
    | .ok _ => none
    | .error e => some (.invalidValue a v e.message)
  | _ => none

/-- How reading the arguments stops early. -/
inductive Stop where
  /-- The arguments are refused. -/
  | refused (e : UsageError)
  /-- Help was asked for. -/
  | help

/-- The arguments read so far. -/
structure Reading where
  /-- The arguments taken, in order. -/
  used : List Arg := []
  /-- Their accepted values. -/
  values : List (Arg × String) := []
  /-- The argument whose values are still being collected. -/
  pending : Option (Arg × List String) := none
  /-- Whether the next argument is the value of the pending option. -/
  awaiting : Bool := false
  /-- Whether the positional argument was given. -/
  positional : Bool := false
  /-- Whether `--` was seen. -/
  trailing : Bool := false

namespace Reading

/-- Takes an argument with its values: the reading after it, and the stop it causes, if any. -/
def take (r : Reading) (a : Arg) (vals : List String) : Reading × Option Stop :=
  if a.takesValue ∧ vals.isEmpty then (r, some (.refused (.missingValue a)))
  else if a = .help then (r, some .help)
  else if r.used.contains a then ({ r with used := r.used.erase a }, some (.refused (.repeated a)))
  else
    let r := { r with used := r.used ++ [a] }
    let v := vals.headD "true"
    match a.check v with
    | none => ({ r with values := r.values ++ [(a, v)] }, none)
    | some e => (r, some (.refused e))

/-- Takes the pending argument, if any. -/
def resolve (r : Reading) : Reading × Option Stop :=
  match r.pending with
  | none => (r, none)
  | some (a, vals) => take { r with pending := none, awaiting := false } a vals

/-- Takes the pending argument, then an argument with its values. -/
def react (r : Reading) (a : Arg) (vals : List String) : Except Stop Reading :=
  match r.resolve with
  | (_, some s) => .error s
  | (r, none) => match r.take a vals with
    | (_, some s) => .error s
    | (r, none) => .ok r

/-- Takes the pending argument and makes an option wait for its value. -/
def await (r : Reading) (a : Arg) : Except Stop Reading :=
  match r.resolve with
  | (_, some s) => .error s
  | (r, none) => .ok { r with pending := some (a, []), awaiting := true }

/-- Jaro similarity of two texts. -/
def jaro (a b : List Char) : Float :=
  let la := a.length
  let lb := b.length
  if la = 0 ∧ lb = 0 then 1.0
  else if la = 0 ∨ lb = 0 then 0.0
  else
    let range := max la lb / 2 - 1
    let (aFlags, bFlags, hits) := (List.range la).foldl (fun (af, bf, m) i =>
      let ca := a.getD i ' '
      let lo := i - range
      let hi := min lb (i + range + 1)
      match (List.range' lo (hi - lo)).find? (fun j => b.getD j ' ' = ca ∧ bf.getD j true = false) with
      | some j => (af.set i true, bf.set j true, m + 1)
      | none => (af, bf, m)) (List.replicate la false, List.replicate lb false, 0)
    let pick := fun (cs : List Char) (fs : List Bool) => (cs.zip fs).filterMap fun (c, f) =>
      if f then some c else none
    let t := ((pick a aFlags).zip (pick b bFlags)).countP (fun (x, y) => x ≠ y) / 2
    if hits = 0 then 0.0
    else
      let m := Double.ofNat hits
      (m / Double.ofNat la + m / Double.ofNat lb + Double.ofNat (hits - t) / m) / 3.0

/-- The known option most similar to an unknown long name, if any is similar enough; of equally
similar ones, the last declared. -/
def similar? (name : String) : Option Arg :=
  (Arg.options.foldl (fun best a =>
    let score := jaro name.toList a.long.toList
    if score > 0.7 then
      match best with
      | some (_, s) => if score ≥ s then some (a, score) else best
      | none => some (a, score)
    else best) none).map (·.1)

/-- Reads a long option, `name` being what follows `--`. -/
def long (r : Reading) (body : String) : Except Stop Reading :=
  let name := (body.splitOn "=").headD ""
  let value? := if body.contains '=' then some (body.drop (name.length + 1)).toString else none
  match Arg.ofLong? name with
  | some a =>
    if a.takesValue then
      match value? with
      | some v => r.react a [v]
      | none => r.await a
    else match value? with
      | some v => .error (.refused (.unexpectedValue v a r.used))
      | none => r.react a []
  | none =>
    let r := r.resolve.1
    match similar? name with
    | some a =>
      let used := if r.used.contains a then r.used else r.used ++ [a]
      .error (.refused (.unknown ("--" ++ name) (some ("--" ++ a.long)) false used))
    | none => .error (.refused (.unknown ("--" ++ name) none true r.used))

/-- Reads short options, `cs` being what follows `-`. -/
def short (r : Reading) (cs : List Char) : Except Stop Reading :=
  match cs with
  | [] => .ok r
  | c :: rest =>
    match Arg.ofShort? c with
    | some a =>
      if !a.takesValue then r.react a []
      else if rest.isEmpty then r.await a
      else
        let v := String.ofList rest
        r.react a [if v.startsWith "=" then (v.drop 1).toString else v]
    | none => .error (.refused (.unknown ("-" ++ String.singleton c) none true []))

/-- Reads a positional argument. -/
def positionalArg (r : Reading) (arg : String) : Except Stop Reading :=
  if r.positional then .error (.refused (.unknown arg none false []))
  else match r.resolve with
    | (_, some s) => .error s
    | (r, none) => .ok { r with pending := some (.input, [arg]), positional := true }

/-- Reads one argument. -/
def step (r : Reading) (arg : String) : Except Stop Reading :=
  if r.trailing then r.positionalArg arg
  else if arg = "--" then .ok { r with trailing := true }
  else if arg.startsWith "--" then r.long (arg.drop 2).toString
  else if arg.startsWith "-" ∧ arg ≠ "-" then r.short (arg.drop 1).toString.toList
  else if r.awaiting then
    .ok { r with pending := r.pending.map (fun (a, vs) => (a, vs ++ [arg])), awaiting := false }
  else r.positionalArg arg

/-- Reads all arguments. -/
def readAll (r : Reading) : List String → Except Stop Reading
  | [] => .ok r
  | arg :: rest => match r.step arg with
    | .ok r => readAll r rest
    | .error s => .error s

/-- The first conflict among the arguments taken, in their order. -/
def conflict? (r : Reading) : Option UsageError :=
  r.used.findSome? fun a =>
    let other : Option Arg := match a with
      | .passthrough => some .widestFace
      | .widestFace => some .passthrough
      | _ => none
    other.bind fun b =>
      if r.used.contains b then some (.conflict a b (r.used.filter (· ≠ b))) else none

/-- An accepted dimension's value. -/
def dimension? (s : String) : Option Nat :=
  (Numeral.parseInteger Word.i64Min Word.i64Max s).toOption.map Int.toNat

/-- The options the accepted values give. -/
def options (r : Reading) : Options :=
  let v := fun (a : Arg) => r.values.lookup a
  { input := (v .input).getD "-"
    config := v .config
    fps := (v .fps).bind Numeral.parseDecimal?
    width := (v .width).bind dimension?
    height := (v .height).bind dimension?
    changesOnly := r.used.contains .changesOnly
    widestFace := r.used.contains .widestFace
    passthrough := r.used.contains .passthrough
    overlayOut := v .overlayOut
    layout := (v .layout).bind fun s => (PixelLayout.parse s).toOption
    metrics := r.used.contains .metrics }

end Reading

/-- What the arguments ask for: a replay with options, the help, or a refusal. -/
def readArguments (args : List String) : Except Stop Options :=
  match Reading.readAll {} args with
  | .error s => .error s
  | .ok r => match r.resolve with
    | (_, some s) => .error s
    | (r, none) => match r.conflict? with
      | some e => .error (.refused e)
      | none => .ok r.options

end FaceFraming.Cli
