import SnippetForge.Toolchain.Basic
import SnippetForge.Webpack.DriverScript
import SnippetForge.Webpack.Supervision

/-!
# The webpack toolchain

Runs `node` with the driver script in the project root, with the bundle request in its
environment, and supervises the process. Each time the toolchain is resumed it takes the next
event from the machine, or says that there is none yet.

`node` is the program that the settings name, or the first one along the search path.
-/

namespace SnippetForge.Webpack

/-! ### Finding the program -/

/-- The name of the program that runs the driver script. -/
def programName : String := "node"

/-- The directory that an item of a search path means. A tilde in front is the home directory, if
there is one. -/
def itemDirectory (home : Option Path) (item : String) : Path :=
  match home, (Path.mk item).components with
  | some home, .name "~" :: _ =>
    (((Path.mk item).segments.filter fun s => !Path.isTrivial s).drop 1).foldl Path.child home
  | _, _ => ⟨item⟩

/-- The candidate for a program in one directory of a search path. A relative directory counts
from the current one, and segments that add nothing are left out of it. -/
def candidate (cwd : Place) (home : Option Path) (item : String) : Path :=
  let path := (itemDirectory home item).child programName
  if path.isAbsolute then path
  else cwd.path.join ⟨Path.ofSegments (path.segments.filter fun s => !Path.isTrivial s)⟩

/-- The program along a search path. -/
def findProgram (d : Disk) (cwd : Place) (home : Option Path) (searchPath : String) :
    Except Failure Path :=
  let candidates := (searchPath.splitOn ":").map (candidate cwd home)
  match candidates.find? fun p => d.isExecutable cwd p with
  | some p => .ok p
  | none => .error (.compilation "node not found in PATH")

/-- The program that the settings mean. -/
def programOf (w : World) (settings : Settings) : Except Failure Path :=
  match settings.nodePath with
  | some p => .ok p
  | none => findProgram w.disk w.cwd w.home? w.searchPath

/-! ### Running it -/

/-- The state of a run. -/
inductive RunState
  /-- The program could not be started. -/
  | refused (failure : Failure)
  /-- The program runs. -/
  | supervised (child : Machine.Child) (state : Supervision)

/-- The failure of a program that could not be started. -/
def spawnFailure (program : Path) (fault : Fault) : Failure :=
  .compilation ("failed to run " ++ program.text ++ ": " ++ fault.message)

/-- The environment of the program. -/
def environmentFor (w : World) (request : Request) : List (String × String) :=
  (requestVariable, request.toJson.compact) ::
    w.environment.filter fun v => v.1 != requestVariable

/-- Starts the program. -/
def start (program projectRoot : Path) (w : World) (request : Request) : World × RunState :=
  match w.toMachine.spawn w.cwd
      ⟨projectRoot, program, ["-e", driverScript], environmentFor w request⟩ with
  | .ok (m, child) => (w.withMachine m, .supervised child .started)
  | .error fault => (w, .refused (spawnFailure program fault))

/-- The next event of one stream, with the machine after it. -/
def streamEvent? (m : Machine) (stream : Stream) (pipe : PipeId) (c : Capture) :
    Option (Machine × Event) :=
  if c.isClosed then none
  else if !(m.buffered pipe).isEmpty then
    let (m, bytes) := m.drain pipe
    some (m, .delivered stream bytes)
  else if m.isDrained pipe then some (m, .closed stream)
  else none

/-- The machine after a supervisor has given up: the process is killed if it is alive, and nobody
reads its streams any more. -/
def abandon (m : Machine) (child : Machine.Child) : Machine :=
  let m := if m.isAlive child.pid then m.finish child.pid (.signal .kill) else m
  (m.readOutside child.out false).readOutside child.err false

/-- The next event of a run, with the machine after it. -/
def nextEvent? (w : World) (token : TokenId) (child : Machine.Child) (s : Supervision) :
    Option (World × Event) :=
  let m := w.toMachine
  let seen : Option (Machine × Event) :=
    match s.status, m.exitOf? child.pid with
    | none, some status => some (m, .exited status)
    | _, _ =>
      match streamEvent? m .output child.out s.output with
      | some found => some found
      | none => streamEvent? m .error child.err s.error
  match seen with
  | some (m, event) => some (w.withMachine m, event)
  | none =>
    if w.tokens.isFired token then some (w.withMachine (abandon m child), .cancelled) else none

/-- Resumes a run. -/
def resume (w : World) (token : TokenId) : RunState → World × Turn RunState
  | .refused failure => (w, .finished (.error failure))
  | .supervised child s =>
    match s.verdict with
    | some verdict => (w.reportAll verdict.log, .finished verdict.result)
    | none =>
      match nextEvent? w token child s with
      | some (w, event) =>
        (w.reportAll (s.eventLines event), .running (.supervised child (s.step event)))
      | none => (w, .waiting)

end SnippetForge.Webpack

namespace SnippetForge

/-- The toolchain that runs webpack by a program in a project. -/
def Toolchain.webpack (program projectRoot : Path) : Toolchain Webpack.RunState where
  name := "webpack"
  start := fun w request _ => Webpack.start program projectRoot w request
  resume := fun w _ token state => Webpack.resume w token state

end SnippetForge
