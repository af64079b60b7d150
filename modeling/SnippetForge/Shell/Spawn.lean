import SnippetForge.Shell.Run

/-!
# Programs started from outside

Starting a program in a directory, with its output going to two pipes that are read outside of the
machine. The name of a program without a slash is looked up along the search path of the program's
own environment.
-/

namespace SnippetForge.Machine

open Shell

/-- A program that was started from outside, with the pipes it writes to. -/
structure Child where
  pid : Nat
  out : PipeId
  err : PipeId
  deriving DecidableEq, Repr

/-- What is to be started from outside: where, which program with which words, and its variables. -/
structure Start where
  directory : Path
  program : Path
  words : List String
  environment : List (String × String)

namespace Start

/-- Whether a text holds a NUL character, which nothing that is started may hold. -/
def hasNul (text : String) : Bool :=
  text.toList.contains (Char.ofNat 0)

/-- Whether something that is to be started can be said at all. -/
def isClean (s : Start) : Bool :=
  !(hasNul s.directory.text || hasNul s.program.text || s.words.any hasNul
    || s.environment.any fun v => hasNul v.1 || hasNul v.2)

/-- The words of the program, its own name first. -/
def allWords (s : Start) : List String :=
  (s.program.text :: s.words).map Text.encoded

/-- The variables of the program. -/
def bindings (s : Start) : List Variable :=
  let sorted := s.environment.mergeSort fun a b => Disk.nameLe a.1 b.1
  sorted.map fun v => ⟨Text.encoded v.1, some (Text.encoded v.2), true, false⟩

/-- The search path of the program. -/
def searchPath (s : Start) : String :=
  Text.encoded ((s.environment.lookup "PATH").getD "/bin:/usr/bin")

end Start

/-- The program of a name in the first of some directories that has one that can be started. One
that may not be executed is passed over but decides the fault in the end; anything worse than a
missing file ends the search. -/
def searchProgram (m : Machine) (cwd : Place) (words : List String)
    (environment : List (String × String)) : List String → Fault → Except Fault Loaded
  | [], fault => .error fault
  | item :: rest, fault =>
    let found := m.programAt cwd maxDepth (inDirectory item (words.headD "")) words
    match withinLimits words environment found with
    | .ok program => .ok program
    | .error (.system .accessDenied) => searchProgram m cwd words environment rest (.system .accessDenied)
    | .error other =>
      if other = .system .noEntry ∨ other = .system .notDirectory then
        searchProgram m cwd words environment rest
          (if fault = .system .accessDenied then fault else other)
      else .error other

/-- The program that a path means, or a name without a slash along the search path. -/
def programNamed (m : Machine) (cwd : Place) (s : Start) : Except Fault Loaded :=
  let name := Text.encoded s.program.text
  let environment := s.environment.map fun v => (Text.encoded v.1, Text.encoded v.2)
  if name = "" then .error (.system .noEntry)
  else if name.toList.contains '/' then
    withinLimits s.allWords environment (m.programAt cwd maxDepth name s.allWords)
  else m.searchProgram cwd s.allWords environment (searchItems s.searchPath) (.system .noEntry)

/-- A process that runs nothing yet. -/
def newProcess (pid : Nat) (cwd : Place) (handles : Handles) (bindings : List Variable) :
    Process :=
  { pid := pid, parent := outside, leader := pid, cwd := cwd, here := "",
    bindings := bindings, arguments := [], cursor := ⟨1, none⟩, handles := handles,
    held := ByteArray.empty,
    functions := [], aliases := [], known := [], ignored := [], traps := [], onExit := none,
    pending := [], options := [], mask := 18, frame := none, label := none, line := 1,
    agenda := [], status := 0, outputStatus := 0, lastBackground := none, jobs := [], steps := 0,
    ended := none, isReaped := false }

/-- How long a program takes to start. -/
def startTime : Nat := 2000000

/-- Starts a program in a directory. -/
def spawn (m : Machine) (cwd : Place) (s : Start) : Except Fault (Machine × Child) :=
  if !s.isClean then .error .nulInCall
  else
    match m.disk.locateNode cwd true s.directory with
    | .error fault => .error fault
    | .ok (place, .directory) =>
      match m.programNamed place s with
      | .error fault => .error fault
      | .ok loaded =>
        let (m, out) := m.newPipe false true
        let (m, err) := m.newPipe false true
        let handles := [(0, .device .null), (1, .writing out), (2, .writing err)]
        let p := m.load (newProcess m.nextId place handles s.bindings) loaded
        let p := { p with agenda := .sleepUntil (m.clock + startTime) :: p.agenda }
        .ok ({ m with processes := m.processes ++ [p], nextId := m.nextId + 1 },
          ⟨p.pid, out, err⟩)
    | .ok _ => .error (.system .notDirectory)

end SnippetForge.Machine
