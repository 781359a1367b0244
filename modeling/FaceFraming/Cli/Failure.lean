import FaceFraming.Text.Quote

/-!
# Failures of the command

A failure of the command is a message with the chain of causes behind it, most direct first. It is
printed as `Error: ` and the message; then, when there are causes, an empty line, `Caused by:` and
one line per cause: indented by four spaces when there is one cause, numbered (`    0: `) when
there are several. The further lines of a cause's message are indented to line up with its first.

An abort is graver: the command stops at once with status 101. The one abort is a variable that an
environment file would set to a value holding a NUL character, which no process environment can
carry.
-/

namespace FaceFraming.Cli

/-- A failure: what failed and why. -/
structure Failure where
  /-- What failed. -/
  message : String
  /-- The causes, most direct first. -/
  causes : List String := []

/-- A cause's message with its further lines indented. -/
def indentLines (indent : String) (s : String) : String :=
  "\n".intercalate (match s.splitOn "\n" with
    | [] => []
    | first :: rest => first :: rest.map (indent ++ ·))

/-- The text of a failure, as printed. -/
def Failure.render (f : Failure) : String :=
  let causes := match f.causes with
    | [] => ""
    | [c] => "\n\nCaused by:\n    " ++ indentLines "    " c
    | cs => "\n\nCaused by:" ++ String.join (cs.zipIdx.map fun (c, i) =>
        "\n" ++ String.ofList (List.replicate (5 - min 5 (toString i).length) ' ') ++ toString i ++
          ": " ++ indentLines "       " c)
  "Error: " ++ f.message ++ causes ++ "\n"

/-- A variable that cannot be set, which aborts the command. -/
structure Abort where
  /-- The variable. -/
  key : String
  /-- The value it would take, holding a NUL character. -/
  value : String

/-- The exit status of an aborted command. -/
def Abort.status : Nat := 101

/-- The text of an abort, as printed on standard error. -/
def Abort.render (a : Abort) : String :=
  "thread 'main' panicked at library/std/src/env.rs:370:9:\nfailed to set environment variable `" ++
    Text.quoteAll a.key ++ "` to `" ++ Text.quoteAll a.value ++
    "`: file name contained an unexpected NUL byte\n" ++
    "note: run with `RUST_BACKTRACE=1` environment variable to display a backtrace\n"

end FaceFraming.Cli
