import SnippetForge.Failure
import SnippetForge.Log
import SnippetForge.Machine.Basic
import SnippetForge.Report
import SnippetForge.Text.Blank
import SnippetForge.Text.Utf8

/-!
# Supervising a bundler process

What a supervisor sees of a running process are events: the process ends, one of its two output
streams delivers bytes or comes to its end, the cancellation token is fired. They come in any
order, since a process may leave others behind that keep its streams open. The supervisor waits
for the end of the process and of both streams, or gives up when the token is fired; giving up
kills the process if it is still alive.

A process that failed is a failed compilation, with what it wrote to the error stream as the
reason. A process that succeeded has written its report as the last line of its output that is
not blank; whatever stands before that line is chatter. A stream that is no text counts as empty.
-/

namespace SnippetForge.Webpack

/-! ### Events and states -/

/-- The output streams of a process. -/
inductive Stream
  | output
  | error
  deriving DecidableEq, Repr

/-- What a supervisor sees. -/
inductive Event
  /-- The process has ended. -/
  | exited (status : ExitStatus)
  /-- A stream delivers bytes. -/
  | delivered (stream : Stream) (bytes : ByteArray)
  /-- A stream has come to its end. -/
  | closed (stream : Stream)
  /-- The token is fired. -/
  | cancelled
  deriving DecidableEq

/-- What has come from a stream. -/
structure Capture where
  bytes : ByteArray
  isClosed : Bool
  deriving DecidableEq

/-- How the supervision of a process ends. -/
inductive Verdict
  /-- The supervisor gave up. -/
  | cancelled
  /-- The process has ended and its streams are closed. -/
  | completed (status : ExitStatus) (output error : ByteArray)
  deriving DecidableEq

/-- The state of a supervision. -/
structure Supervision where
  /-- How the process ended, if it has. -/
  status : Option ExitStatus
  output : Capture
  error : Capture
  verdict : Option Verdict
  deriving DecidableEq

/-- Nothing has come from a stream yet. -/
def Capture.empty : Capture :=
  ⟨ByteArray.empty, false⟩

namespace Supervision

/-- The state when a process has been started. -/
def started : Supervision :=
  ⟨none, Capture.empty, Capture.empty, none⟩

/-- Whether the process is alive. -/
def isAlive (s : Supervision) : Bool :=
  s.status.isNone

/-- The end of the supervision, if all that it waits for has come. -/
def complete? (s : Supervision) : Option Verdict :=
  match s.status with
  | some status =>
    if s.output.isClosed && s.error.isClosed then
      some (.completed status s.output.bytes s.error.bytes)
    else none
  | none => none

/-- Reaches a verdict once everything has come. -/
def settle (s : Supervision) : Supervision :=
  { s with verdict := s.complete? }

/-- A capture after some bytes; a closed stream delivers none. -/
def deliver (c : Capture) (bytes : ByteArray) : Capture :=
  if c.isClosed then c else { c with bytes := c.bytes ++ bytes }

/-- A capture at the end of its stream. -/
def close (c : Capture) : Capture :=
  { c with isClosed := true }

/-- The state after an event. Once there is a verdict, nothing changes it. Giving up kills a
process that is alive. -/
def step (s : Supervision) (event : Event) : Supervision :=
  match s.verdict with
  | some _ => s
  | none =>
    match event with
    | .exited status =>
      match s.status with
      | some _ => s
      | none => { s with status := some status }.settle
    | .delivered .output bytes => { s with output := deliver s.output bytes }
    | .delivered .error bytes => { s with error := deliver s.error bytes }
    | .closed .output => { s with output := close s.output }.settle
    | .closed .error => { s with error := close s.error }.settle
    | .cancelled =>
      { s with status := some (s.status.getD (.signal .kill)), verdict := some .cancelled }

/-- The state after some events. -/
def run (s : Supervision) (events : List Event) : Supervision :=
  events.foldl step s

end Supervision

/-! ### What a process has said -/

/-- The text of a stream, empty if its bytes are no text. -/
def streamText (bytes : ByteArray) : String :=
  (String.fromUTF8? bytes).getD ""

/-- The report that the bytes of a stream are no text. -/
def streamLines (bytes : ByteArray) : List LogLine :=
  (Text.Utf8.fault? bytes).toList.map fun fault =>
    .debug ("Failed to read toolchain output: " ++ fault.message)

/-- What is reported at an event. Whether a stream is text is known when it has come to its end. -/
def Supervision.eventLines (s : Supervision) : Event → List LogLine
  | .closed .output => streamLines s.output.bytes
  | .closed .error => streamLines s.error.bytes
  | _ => []

/-- The reason for a failed process. -/
def failureDetail (status : ExitStatus) (error : String) : String :=
  let reason := Text.trim error
  if reason = "" then "webpack exited with " ++ status.text
  else "webpack exited with " ++ status.text ++ ": " ++ reason

/-- The lines of the output that are not blank, the last one apart. -/
def reportLine? (output : String) : Option (List String × String) :=
  let lines := (Text.lines output).filter fun line => !Text.isBlankText line
  match lines.getLast? with
  | some last => some (lines.dropLast, last)
  | none => none

/-- The report in the output of a process. -/
def reportOf (output : String) : Report :=
  match reportLine? output with
  | some (_, line) => Report.ofText line
  | none => Report.empty

/-- The report about the lines before the report line. -/
def chatterLines (output : String) : List LogLine :=
  match reportLine? output with
  | some (chatter, _) =>
    if chatter.isEmpty then []
    else [.debug ("webpack output: " ++ String.intercalate "\n" chatter)]
  | none => []

/-- The report about what a process that succeeded has written to its error stream. -/
def errorLines (error : String) : List LogLine :=
  if Text.isBlankText error then []
  else [.debug ("webpack stderr: " ++ Text.trim error)]

/-- The result of a supervision. -/
def Verdict.result : Verdict → Except Failure Report
  | .cancelled => .error .cancelled
  | .completed status output error =>
    if status.isSuccess then .ok (reportOf (streamText output))
    else .error (.compilation (failureDetail status (streamText error)))

/-- What is reported at the end of a supervision. -/
def Verdict.log : Verdict → List LogLine
  | .cancelled => []
  | .completed status output error =>
    if status.isSuccess then
      errorLines (streamText error) ++ chatterLines (streamText output)
    else []

end SnippetForge.Webpack
