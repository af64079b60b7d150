import SnippetForge.Disk.Operation
import SnippetForge.Log
import SnippetForge.Request
import SnippetForge.Shell.Spawn
import SnippetForge.Tokens

/-!
# The world of a compilation

Everything a compilation can see or change: a machine with its disk, clock and processes, the
current directory and the environment, the log, the cancellation tokens with the alarms that will
fire some of them, a record of the calls of toolchains, and a supply of names for temporary
directories. The supply is any sequence of names; nothing relies on its names being new.

`advance?` lets something happen: it makes one step of a running process, or else, if all of them
wait, moves the clock to the next point in time that anyone waits for. A process may send the
world a signal; the one that interrupts fires a token, if one is set for that, and most others end
the world, and then nothing happens any more.
-/

namespace SnippetForge

/-- A call of a toolchain: what it was asked, and the disk at that moment. -/
structure Call where
  request : Request
  disk : Disk
  deriving DecidableEq

/-- All that a compilation can see or change. -/
structure World extends Machine where
  cwd : Place
  environment : List (String × String)
  log : List LogLine
  tokens : Tokens
  /-- Points in time at which tokens are fired. -/
  alarms : List (Nat × TokenId)
  /-- The token that an interrupting signal fires. -/
  interrupted : Option TokenId
  /-- The signal that has ended the world. -/
  ended : Option Signal
  /-- The names proposed for temporary directories. -/
  names : Nat → String
  /-- How many names have been proposed. -/
  drawn : Nat
  /-- The calls of toolchains so far. -/
  calls : List Call

namespace World

/-- A world in which nothing has happened yet. -/
def fresh (disk : Disk) (cwd : Place) (environment : List (String × String))
    (names : Nat → String) : World :=
  { Machine.idle disk with
    cwd := cwd, environment := environment, log := [], tokens := Tokens.none, alarms := [],
    interrupted := none, ended := none, names := names, drawn := 0, calls := [] }

/-- The search path of the environment. -/
def searchPath (w : World) : String :=
  (w.environment.lookup "PATH").getD ""

/-- The home directory of the environment. -/
def home? (w : World) : Option Path :=
  ((w.environment.lookup "HOME").filter (· != "")).map Path.mk

/-- Adds a line to the log. -/
def report (w : World) (line : LogLine) : World :=
  { w with log := w.log ++ [line] }

/-- Adds lines to the log. -/
def reportAll (w : World) (lines : List LogLine) : World :=
  { w with log := w.log ++ lines }

/-- Records a call of a toolchain. -/
def recordCall (w : World) (request : Request) : World :=
  { w with calls := w.calls ++ [⟨request, w.disk⟩] }

/-- Puts another machine in place. The current directory stays the same directory. -/
def withMachine (w : World) (m : Machine) : World :=
  { w with toMachine := m, cwd := w.disk.follow m.disk w.cwd }

/-- Puts another disk in place. -/
def withDisk (w : World) (disk : Disk) : World :=
  w.withMachine (w.toMachine.withDisk disk)

/-- Does a file operation below a base directory. -/
def operate (w : World) (base : Path) (operation : FileOperation) : World :=
  w.withDisk (operation.apply w.disk w.cwd base)

/-- Puts other tokens in place. -/
def withTokens (w : World) (tokens : Tokens) : World :=
  { w with tokens := tokens }

/-- Proposes a name and counts it. -/
def draw (w : World) : World × String :=
  ({ w with drawn := w.drawn + 1 }, w.names w.drawn)

/-- Sets an alarm that fires a token after some time. -/
def setAlarm (w : World) (after : Nat) (token : TokenId) : World :=
  { w with alarms := (w.clock + after, token) :: w.alarms }

/-- Fires the tokens whose time has come. -/
def ring (w : World) : World :=
  let due := w.alarms.filter fun a => a.1 ≤ w.clock
  { w with
    tokens := due.foldl (fun t a => t.fire a.2) w.tokens,
    alarms := w.alarms.filter fun a => !decide (a.1 ≤ w.clock) }

/-- Lets an interrupting signal fire a token. -/
def interruptBy (w : World) (token : TokenId) : World :=
  { w with interrupted := some token }

/-- Whether a signal ends the world. One that interrupts does not, nor does one that only says that
nobody reads any more. -/
def isFatal (s : Signal) : Bool :=
  !(s.isHarmless || s.stops || [Signal.interrupt, Signal.pipe].contains s)

/-- The world after the signals that processes have sent to it. The first one that interrupts is
said and fires its token. -/
def hear (w : World) : World :=
  let w := { w with ended := w.heard.find? isFatal }
  match w.interrupted with
  | some token =>
    if w.heard.contains Signal.interrupt then
      { w with heard := [], interrupted := none, tokens := w.tokens.fire token }.report
        (.warn "Interrupted, cancelling compilation")
    else { w with heard := [] }
  | none => { w with heard := [] }

/-- The smaller of two points in time, as far as they are set. -/
def earlier : Option Nat → Option Nat → Option Nat
  | some a, some b => some (min a b)
  | some a, none => some a
  | none, b => b

/-- The next point in time that anyone waits for, among them the given ones. -/
def nextTime? (w : World) (limits : List Nat) : Option Nat :=
  ((w.alarms.map (·.1) ++ limits).filter fun t => w.clock < t).foldl
    (fun first t => earlier first (some t)) w.toMachine.nextTime?

/-- Lets something happen: an alarm that is due, a signal, a step of a process, or else the passing
of time up to the next point that anyone waits for. None if nothing is left that could happen, or if
the world has ended. -/
def advance? (w : World) (limits : List Nat) : Option World :=
  if w.ended.isSome then none
  else if w.alarms.any fun a => a.1 ≤ w.clock then some w.ring
  else if !w.heard.isEmpty then some w.hear
  else
    match w.toMachine.step? with
    | some m => some (w.withMachine m)
    | none =>
      match w.nextTime? limits with
      | some t => some { w with toMachine := w.toMachine.tick (t - w.clock) }.ring
      | none => none

end World

end SnippetForge
