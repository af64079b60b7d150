import SnippetForge.Machine.Basic

/-!
# Going on with processes

What a step of a process can end in: the process goes on with other tasks, with a new status, after
having written something, as two processes, or not at all.
-/

namespace SnippetForge.Machine

/-! ### Going on -/

/-- Goes on with a process whose next task is done. -/
def continueWith (m : Machine) (p : Process) (agenda : List Task) : Machine :=
  m.putProcess { p with agenda := agenda }

/-- Goes on with a process after a command that gave a status. -/
def succeedWith (m : Machine) (p : Process) (status : Nat) (agenda : List Task) : Machine :=
  m.putProcess { p with agenda := agenda, status := status }

/-- Writes to a descriptor of a process; none if nobody can ever read it. -/
def emit (m : Machine) (p : Process) (descriptor : Nat) (bytes : ByteArray) : Option Machine :=
  match handleOf p descriptor with
  | some h => m.write? h bytes
  | none => some m

/-- What becomes of a process that writes to a pipe that nobody reads: it is ended, unless it
ignores that. -/
def breakPipe (m : Machine) (p : Process) (agenda : List Task) : Machine :=
  if p.ignored.contains Signal.pipe then m.succeedWith p 1 agenda
  else m.finish p.pid (.signal .pipe)

/-- Goes on with a process after a command that wrote something and gave a status. Writing to a
pipe that nobody reads ends the process. -/
def finishCommand (m : Machine) (p : Process) (out err : String) (status : Nat)
    (agenda : List Task) : Machine :=
  match m.emit p 2 (Text.octetBytes err) with
  | none => m.breakPipe p agenda
  | some m =>
    match m.emit p 1 (Text.octetBytes out) with
    | none => m.breakPipe p agenda
    | some m => m.succeedWith p status agenda

/-! ### Complaints and ends -/

/-- The name of a script. -/
def scriptName (p : Process) : String :=
  (p.arguments.head?).getD "sh"

/-- A message of a script, which names the script, the line and what it comes from. -/
def complaintOf (p : Process) (label : Option String) (text : String) : String :=
  let origin := (label.map (· ++ ": ")).getD ""
  scriptName p ++ ": " ++ toString p.line ++ ": " ++ origin ++ text ++ "\n"

/-- A message of a script. -/
def complaint (p : Process) (text : String) : String :=
  complaintOf p p.label text

/-- Goes on with a process after a command that could only complain. -/
def complain (m : Machine) (p : Process) (text : String) (status : Nat) (agenda : List Task) :
    Machine :=
  m.finishCommand p "" (complaint p text) status agenda

/-- Goes on with a process after a command of the shell that could only complain. -/
def complainAs (m : Machine) (p : Process) (label text : String) (status : Nat)
    (agenda : List Task) : Machine :=
  m.finishCommand p "" (complaintOf p (some label) text) status agenda

/-- The number of the last line of a text. -/
def lastLine (text : List Char) : Nat :=
  (text.filter (· == '\n')).length + 1

/-- The task that runs a text, which may be a file. -/
def scriptTask (text : String) (isFile isTested : Bool) : Task :=
  .script text.toList (lastLine text.toList) isFile true isTested

/-- Ends a script with a status, after what it does at its end. -/
def leave (m : Machine) (p : Process) (status : Nat) : Machine :=
  match p.onExit with
  | some action =>
    m.putProcess
      { p with
        onExit := none, status := status,
        agenda := [scriptTask action false false, .recall status, .quit] }
  | none => m.finish p.pid (.code (status % 256))

/-- Ends a script with a message. -/
def abort (m : Machine) (p : Process) (text : String) (status : Nat) : Machine :=
  m.complain p text status [.quit]

/-- Ends a script with a message of a command of the shell. -/
def abortAs (m : Machine) (p : Process) (label text : String) (status : Nat) : Machine :=
  m.complainAs p label text status [.quit]

/-! ### Other processes -/

/-- The job of a number. -/
def job? (p : Process) (number : Nat) : Option BackgroundJob :=
  p.jobs.find? (·.number == number)

/-- The number of the next job: the first one that is free, or whose job the script has waited
for. -/
def freeJob (p : Process) : Nat :=
  ((List.range (p.jobs.length + 1)).find? fun n =>
    (job? p (n + 1)).all (·.isWaited)).getD 0 + 1

/-- A process that is about to start another one. It forgets the job whose number is free next. -/
def withFreeJob (p : Process) : Process :=
  { p with jobs := p.jobs.filter fun job => job.number != freeJob p }

/-- Starts a copy of a process that runs other tasks. What the process does on signals and at its
end is not copied, but what it ignores is. -/
def fork (m : Machine) (p : Process) (handles : Handles) (agenda : List Task) : Machine × Nat :=
  let child : Process :=
    { p with
      pid := m.nextId, parent := p.pid, handles := handles,
      traps := p.traps.filter (·.2 == ""), onExit := none, pending := [], agenda := agenda,
      jobs := [] }
  ({ m with processes := m.processes ++ [child], nextId := m.nextId + 1 }, m.nextId)

/-- What is written about a process that was ended by a signal, when that is seen. -/
def endNotice (m : Machine) (pid : Nat) : String :=
  match m.process? pid with
  | some { ended := some (.signal s), isReaped := false, .. } =>
    if s.number = 2 || s = Signal.pipe then "" else s.description ++ "\n"
  | _ => ""

/-- Looks which children of a process have ended. Those that it waits for and that were ended by a
signal are written about. None if nothing has ended since it looked last. -/
def seeEnded? (m : Machine) (p : Process) (awaited : List Nat) : Option Machine :=
  if m.processes.any (isUnseen p.pid) then
    let notices := String.join (awaited.map m.endNotice)
    some ((m.markReaped p.pid).finishCommand p "" notices p.status p.agenda)
  else none

/-- Whether the tasks of a process only tidy up before its end, so that a program can take its
place. -/
def isLast (p : Process) (rest : List Task) : Bool :=
  p.traps.all (·.2 == "") && p.onExit.all (· == "") && tidies rest
where
  /-- Whether some tasks only tidy up before the end. -/
  tidies : List Task → Bool
    | [.quit] => true
    | .restore _ :: rest => tidies rest
    | .forget _ :: rest => tidies rest
    | .check :: rest => tidies rest
    | _ => false

end SnippetForge.Machine
