import SnippetForge.Disk.Edit
import SnippetForge.Machine.Signal
import SnippetForge.Shell.Syntax
import SnippetForge.Text.Octets

/-!
# Machines

A machine is a disk with a clock, processes that run on it and pipes between them. The clock
counts nanoseconds. A step of a process takes a short time, waiting takes as long as it takes.

A process is what is left for it to do, an agenda of tasks, together with what it can reach: a
current directory, variables and open descriptors. A descriptor leads to an open file, to one end of
a pipe, or to a device. An open file is a node of the disk and a place in it, so all who share it go
on where the last one stopped, and it stays open when it is moved or removed. Which ends of a pipe are
open is not counted anywhere; it follows from the descriptors of the processes that are alive, so
closing a descriptor or ending a process needs no bookkeeping. The outside of the machine can hold the
reading end of a pipe too.

The text that processes work on, their variables and their words, is a string of octets.
-/

namespace SnippetForge

/-- What tells a pipe from others. -/
inductive PipeId
  /-- The number of a pipe that only processes know. -/
  | unnamed (id : Nat)
  /-- The number of its node on the disk. -/
  | named (node : Nat)
  deriving DecidableEq, Repr

/-- What a descriptor leads to. -/
inductive Handle
  /-- A device. -/
  | device (d : Device)
  /-- An open file. -/
  | file (id : Nat)
  /-- The reading end of a pipe. -/
  | reading (pipe : PipeId)
  /-- The writing end of a pipe. -/
  | writing (pipe : PipeId)
  deriving DecidableEq, Repr

/-- The open descriptors of a process. -/
abbrev Handles := List (Nat × Handle)

/-- A variable of a script. One without a value only has its attributes. -/
structure Variable where
  name : String
  value : Option String
  isExported : Bool
  isReadonly : Bool
  deriving DecidableEq, Repr

/-- A variable of some name as it was, if it was there. -/
abbrev Former := String × Option Variable

/-- How far a script has come in taking options from its arguments. -/
structure OptionCursor where
  /-- The number of the next argument. -/
  index : Nat
  /-- The place of the next letter in the argument before it, if that has more letters. -/
  offset : Option Nat
  deriving DecidableEq, Repr

/-- What a command of the script has to put back when it ends: the arguments, the place among the
options in them, and what it has replaced by variables and options of its own. -/
structure Frame where
  arguments : List String
  cursor : OptionCursor
  bindings : List Former
  options : Option (List Char)
  deriving DecidableEq, Repr

/-- What a program that starts others does next. -/
inductive BatchStep
  /-- Writes to a descriptor. -/
  | write (descriptor : Nat) (text : String)
  /-- Starts a program and waits for it. If it fails, the one that has started it ends with the
  failure in the end; no failure counts if that is zero. -/
  | start (words : List String) (failure : Nat)
  deriving DecidableEq, Repr

/-- How a program watches over the one that it has started. -/
structure Watch where
  /-- When the program's time is up. -/
  deadline : Option Nat
  /-- The signal that it gets then. -/
  signal : Signal
  /-- How much later it is killed, if it is. -/
  grace : Option Nat
  /-- Whether its time has been up. -/
  isOver : Bool
  /-- Whether its status counts even so. -/
  keepsStatus : Bool
  /-- What is written down when it gets a signal. -/
  note : Option String
  deriving DecidableEq, Repr

/-- A command that a program needs to go on. -/
inductive CommandRequest
  /-- Its output is to be read. -/
  | read (command : String)
  /-- It writes to the same output. -/
  | run (command : String)
  /-- It reads a text. -/
  | write (command text : String)
  deriving DecidableEq, Repr

/-- What came of a command. -/
structure CommandAnswer where
  text : String
  status : Nat
  disk : Disk

/-- A program that is run again with every answer to what it asks for. -/
structure Consultation where
  words : List String
  /-- The disk when the program was started. -/
  start : Disk
  answers : List CommandAnswer
  /-- How many pieces of what it writes have been delivered. -/
  delivered : Nat

/-- What is left for a process to do. A task that runs a command tells whether the status of the
command is looked at; a failure that nobody looks at may end the process. -/
inductive Task
  /-- Runs a command. -/
  | run (command : Shell.Command) (isTested : Bool)
  /-- Goes on with a command some of whose words have been expanded. -/
  | goOn (command : Shell.Command) (isTested : Bool)
  /-- Runs the commands of a text of which this is left, line by line. A text without any command
  succeeds. What is read of a text that is a file can be shown. -/
  | script (text : List Char) (lastLine : Nat) (isFile isEmpty isTested : Bool)
  /-- Waits for a script whose output a task needs, and then does that task. -/
  | fill (pid : Nat) (pipe : PipeId) (task : Task)
  /-- Waits for processes that run together and takes over the status of the last one. -/
  | await (pids : List Nat)
  /-- Waits for processes in the background, one after the other, and can be interrupted. -/
  | waitFor (pids : List Nat)
  /-- Waits for all processes in the background, and can be interrupted. -/
  | waitAll
  /-- Ends the process after a failure, if it is to end then. -/
  | check
  /-- Turns success into failure and failure into success. -/
  | negate
  /-- Runs a command after a success. -/
  | onSuccess (command : Shell.Command) (isTested : Bool)
  /-- Runs a command after a failure. -/
  | onFailure (command : Shell.Command) (isTested : Bool)
  /-- Chooses a branch by the status of a condition. -/
  | choose (yes no : Shell.Command) (isTested : Bool)
  /-- Starts the next round of a loop. -/
  | again (isNegated : Bool) (condition body : Shell.Command) (isTested : Bool)
  /-- Decides by the status of its condition whether a loop goes on, and gives a loop that ends the
  status of its last round. -/
  | loop (isNegated : Bool) (condition body : Shell.Command) (isTested : Bool) (last : Nat)
  /-- Runs a command for each of the values left. -/
  | each (name : String) (values : List String) (body : Shell.Command) (isTested : Bool)
  /-- Runs the command of the first branch that has a pattern for the subject. -/
  | select (subject : String) (branches : List (List Shell.Word × Shell.Command))
      (isTested : Bool)
  /-- Expands the targets of redirections and then opens them. -/
  | aim (done : List (Nat × Shell.RedirectKind × String)) (left : List Shell.Redirect)
  /-- Opens the target of a redirection. -/
  | redirect (descriptor : Nat) (kind : Shell.RedirectKind) (target : String)
  /-- Carries out assignments and then runs the command that comes with them. `former` is what they
  have replaced so far, and `trace` is where the command is written down, with the assignments so
  far. -/
  | assign (former : List Former) (left : List (String × Shell.Word)) (words : List String)
      (trace : Option (Handle × List String)) (isTested : Bool)
  /-- Runs a command whose words are expanded. The assignments that come with it are carried out
  and have replaced something. -/
  | invoke (former : List Former) (words : List String) (isTested : Bool)
  /-- Goes back to earlier descriptors. -/
  | restore (handles : Handles)
  /-- Ends a command of the script and puts back what it has replaced. -/
  | returned (outer : Option Frame)
  /-- Ends a file that was run as a part of the script. -/
  | sourced
  /-- Goes back to what stood before the complaints. -/
  | relabel (label : Option String)
  /-- Goes back to the variables from before a command that came with assignments. -/
  | forget (former : List Former)
  /-- Goes back to the status from before a signal was handled. -/
  | recall (status : Nat)
  /-- Waits for a point in time. -/
  | sleepUntil (time : Nat)
  /-- Runs a program that the system provides. -/
  | utility (words : List String)
  /-- Runs a program that has asked for more of its input. -/
  | starved (words : List String)
  /-- Writes what a program has written to its descriptors, of the first piece only what is left from
  a place on, and ends with its code. -/
  | deliver (program : String) (pieces : List (Nat × ByteArray)) (start code : Nat)
  /-- Starts programs one after the other and ends with a status. If `isStrict`, a program that
  cannot be started, is ended by a signal or gives up is the last one. -/
  | batch (isStrict : Bool) (steps : List BatchStep) (status : Nat)
  /-- Waits for a program of a batch. -/
  | batched (isStrict : Bool) (name : String) (pid failure : Nat) (steps : List BatchStep)
      (status : Nat)
  /-- Waits for a program and sends it a signal when its time is up. -/
  | timed (pid : Nat) (watch : Watch)
  /-- Runs a command that a program has asked for. -/
  | consult (c : Consultation) (r : CommandRequest)
  /-- Waits for a command that a program has asked for, and for what it writes. -/
  | consulted (c : Consultation) (pid : Nat) (pipe : Option PipeId)
  /-- Writes some bytes to a descriptor. -/
  | print (descriptor : Nat) (bytes : ByteArray)
  /-- Waits for the signal to go on. -/
  | suspended
  /-- Ends the process with the last status. -/
  | quit

/-- Whether a task keeps a descriptor open, to go back to it later. -/
def Task.keeps (h : Handle) : Task → Bool
  | .restore handles => handles.any fun e => e.2 == h
  | _ => false

/-- Whether a task waits for the signal to go on. -/
def Task.isSuspended : Task → Bool
  | .suspended => true
  | _ => false

/-- A process that a script has started in the background. -/
structure BackgroundJob where
  number : Nat
  pid : Nat
  /-- Whether the script has waited for its end. -/
  isWaited : Bool
  deriving DecidableEq, Repr

/-- A running program. -/
structure Process where
  pid : Nat
  parent : Nat
  /-- The process that `$$` names. -/
  leader : Nat
  /-- The current directory. -/
  cwd : Place
  /-- The path by which the process has come to its directory. -/
  here : String
  bindings : List Variable
  /-- The name of the script and its arguments. -/
  arguments : List String
  cursor : OptionCursor
  handles : Handles
  /-- What the process has read and not used yet. -/
  held : ByteArray
  /-- The commands that the script has named. -/
  functions : List (String × Shell.Command)
  aliases : List (String × String)
  /-- The names of programs that the script has looked up. -/
  known : List String
  ignored : List Signal
  /-- What the script does on signals. -/
  traps : List (Signal × String)
  /-- What the script does at its end. -/
  onExit : Option String
  /-- The signals that are still to be handled. -/
  pending : List Signal
  /-- The letters of the options that are set. -/
  options : List Char
  /-- The bits that new files do not get. -/
  mask : Nat
  /-- What the command of the script that runs has to put back, if one runs. -/
  frame : Option Frame
  /-- What stands before the complaints, besides the name of the script and the line. -/
  label : Option String
  /-- The line of the command that runs. -/
  line : Nat
  agenda : List Task
  /-- The status of the last command. -/
  status : Nat
  /-- The status of the last script whose output the command that runs has used. -/
  outputStatus : Nat
  /-- The last process started in the background. -/
  lastBackground : Option Nat
  /-- The processes started in the background, the last one first. -/
  jobs : List BackgroundJob
  /-- How many steps the process and those it was copied from have made. -/
  steps : Nat
  ended : Option ExitStatus
  /-- Whether the process that has started it has seen that it ended. -/
  isReaped : Bool

/-- What an open file is open for. -/
inductive Access
  | reading
  | writing
  /-- Writing, always at the end. -/
  | appending
  | both
  deriving DecidableEq, Repr

/-- An open file. -/
structure OpenFile where
  id : Nat
  /-- The number of the node on the disk. -/
  node : Nat
  /-- Where the next byte is read or written. -/
  offset : Nat
  access : Access
  deriving DecidableEq, Repr

/-- Whether an open file may be read. -/
def OpenFile.isReadable (f : OpenFile) : Bool :=
  f.access == .reading || f.access == .both

/-- Whether an open file may be written. -/
def OpenFile.isWritable (f : OpenFile) : Bool :=
  f.access != .reading

/-- A pipe. -/
structure Pipe where
  id : PipeId
  buffer : ByteArray
  /-- Whether only so much fits in before somebody reads. -/
  isBounded : Bool
  /-- Whether someone outside the machine reads from it. -/
  readOutside : Bool
  /-- Whether it has had a writer. -/
  connected : Bool
  deriving DecidableEq

/-- A disk with a clock, processes and pipes. -/
structure Machine where
  disk : Disk
  clock : Nat
  processes : List Process
  pipes : List Pipe
  /-- The open files, the last one first. -/
  files : List OpenFile
  /-- What open files hold that are no longer on the disk, by the numbers of their nodes. -/
  lost : List (Nat × ByteArray)
  /-- The next number for a process, a pipe or an open file. -/
  nextId : Nat
  /-- The signals that were sent to the outside. -/
  heard : List Signal

namespace Machine

/-- The number by which processes know the outside. -/
def outside : Nat := 1

/-- A machine on which nothing runs. -/
def idle (disk : Disk) : Machine :=
  ⟨disk, 0, [], [], [], [], outside + 1, []⟩

/-! ### Processes -/

/-- The process of a number. -/
def process? (m : Machine) (pid : Nat) : Option Process :=
  m.processes.find? (·.pid == pid)

/-- Puts a changed process in the place of the one with its number. -/
def putProcess (m : Machine) (p : Process) : Machine :=
  { m with processes := m.processes.map fun q => if q.pid = p.pid then p else q }

/-- How a process ended, if it did. -/
def exitOf? (m : Machine) (pid : Nat) : Option ExitStatus :=
  (m.process? pid).bind (·.ended)

/-- Ends a process. Its descriptors are closed. -/
def finish (m : Machine) (pid : Nat) (status : ExitStatus) : Machine :=
  match m.process? pid with
  | some p =>
    if p.ended.isSome then m
    else m.putProcess { p with ended := some status, agenda := [], handles := [] }
  | none => m

/-- What a signal does to a process that neither handles nor ignores it. -/
def strike (m : Machine) (signal : Signal) (p : Process) : Machine :=
  if signal = Signal.resume then
    m.putProcess { p with agenda := p.agenda.filter fun task => !task.isSuspended }
  else if signal.isHarmless then m
  else if signal.stops then m.putProcess { p with agenda := .suspended :: p.agenda }
  else m.finish p.pid (.signal signal)

/-- Sends a signal to a process or to the outside. -/
def send (m : Machine) (signal : Signal) (pid : Nat) : Machine :=
  if pid = outside then { m with heard := m.heard ++ [signal] }
  else
    match m.process? pid with
    | some p =>
      if p.ended.isSome then m
      else if !signal.isCatchable then m.strike signal p
      else if p.ignored.contains signal then m
      else if (p.traps.lookup signal).isSome then
        m.putProcess { p with pending := p.pending ++ [signal] }
      else m.strike signal p
    | none => m

/-- Whether a process can be sent a signal: it is alive, or nobody has seen yet that it ended. -/
def isKnown (m : Machine) (pid : Nat) : Bool :=
  match m.process? pid with
  | some p => p.ended.isNone || (!p.isReaped && m.processes.any fun q =>
      q.pid == p.parent && q.ended.isNone)
  | none => false

/-- Whether a process has ended and the one that has started it has not seen that yet. -/
def isUnseen (parent : Nat) (p : Process) : Bool :=
  p.parent == parent && p.ended.isSome && !p.isReaped

/-- Notes that a process has seen which of its children have ended. -/
def markReaped (m : Machine) (parent : Nat) : Machine :=
  { m with
    processes := m.processes.map fun p =>
      if isUnseen parent p then { p with isReaped := true } else p }

/-- Forgets processes that have ended and that somebody has waited for. -/
def reap (m : Machine) (pids : List Nat) : Machine :=
  { m with processes := m.processes.filter fun p => p.ended.isNone || !pids.contains p.pid }

/-- Whether a process is alive. -/
def isAlive (m : Machine) (pid : Nat) : Bool :=
  match m.process? pid with
  | some p => p.ended.isNone
  | none => false

/-! ### Descriptors -/

/-- Opens a descriptor, closing what it led to before. -/
def setHandle (handles : Handles) (descriptor : Nat) (h : Handle) : Handles :=
  (descriptor, h) :: handles.filter fun e => e.1 != descriptor

/-- What a descriptor leads to. -/
def handleOf (p : Process) (descriptor : Nat) : Option Handle :=
  p.handles.lookup descriptor

/-- Whether a process holds a descriptor, be it one that it will only go back to. -/
def holdsHandle (p : Process) (h : Handle) : Bool :=
  (p.handles.any fun e => e.2 == h) || p.agenda.any (·.keeps h)

/-! ### Pipes -/

/-- The pipe of a number. -/
def pipe? (m : Machine) (id : PipeId) : Option Pipe :=
  m.pipes.find? (·.id == id)

/-- Changes the pipe of a number, and makes it if there is none yet. -/
def changePipe (m : Machine) (id : PipeId) (change : Pipe → Pipe) : Machine :=
  match m.pipe? id with
  | some _ => { m with pipes := m.pipes.map fun p => if p.id = id then change p else p }
  | none => { m with pipes := m.pipes ++ [change ⟨id, ByteArray.empty, true, false, false⟩] }

/-- The named pipe at a path, if there is one. -/
def namedPipe? (m : Machine) (cwd : Place) (p : Path) : Option PipeId :=
  match m.disk.targetEntry? cwd p with
  | some entry => if entry.node = .pipe then some (.named entry.id) else none
  | none => none

/-- The named pipe that a process is about to open for one of the given kinds of redirection. -/
def wants (m : Machine) (p : Process) (kinds : List Shell.RedirectKind) (id : PipeId) : Bool :=
  match p.agenda with
  | .redirect _ kind target :: _ =>
    kinds.contains kind && m.namedPipe? p.cwd ⟨Text.decoded target⟩ == some id
  | _ => false

/-- Whether anyone can write to a pipe. -/
def hasWriter (m : Machine) (id : PipeId) : Bool :=
  m.processes.any fun p =>
    p.ended.isNone && (holdsHandle p (.writing id) || m.wants p [.write, .overwrite, .append] id)

/-- Whether anyone can read from a pipe. -/
def hasReader (m : Machine) (id : PipeId) : Bool :=
  ((m.pipe? id).any (·.readOutside)) ||
    m.processes.any fun p =>
      p.ended.isNone && (holdsHandle p (.reading id) || m.wants p [.read] id)

/-- Opens both ends of a named pipe for all processes that are about to open it. -/
def openEnds (m : Machine) (id : PipeId) : Machine :=
  let m := m.changePipe id fun pipe => { pipe with connected := true }
  { m with
    processes := m.processes.map fun p =>
      match p.agenda with
      | .redirect descriptor kind _ :: rest =>
        if m.wants p [.read, .write, .overwrite, .append] id then
          let h := if kind = .read then Handle.reading id else Handle.writing id
          { p with handles := setHandle p.handles descriptor h, agenda := rest }
        else p
      | _ => p }

/-- Whether a pipe has had a writer and has none any more. -/
def isDrained (m : Machine) (id : PipeId) : Bool :=
  ((m.pipe? id).any (·.connected)) && !m.hasWriter id

/-- The bytes that wait in a pipe. -/
def buffered (m : Machine) (id : PipeId) : ByteArray :=
  match m.pipe? id with
  | some p => p.buffer
  | none => ByteArray.empty

/-- How many bytes a pipe holds at most. -/
def pipeCapacity : Nat := 65536

/-- How many more bytes fit into where a descriptor leads; none if there is no end to that. -/
def room? (m : Machine) : Handle → Option Nat
  | .writing id =>
    match m.pipe? id with
    | some pipe =>
      if pipe.isBounded && !pipe.readOutside then some (pipeCapacity - pipe.buffer.size) else none
    | none => none
  | _ => none

/-- Takes all bytes that wait in a pipe. -/
def drain (m : Machine) (id : PipeId) : Machine × ByteArray :=
  (m.changePipe id fun p => { p with buffer := ByteArray.empty }, m.buffered id)

/-- Makes a pipe with a writer. -/
def newPipe (m : Machine) (isBounded readOutside : Bool) : Machine × PipeId :=
  let id := PipeId.unnamed m.nextId
  ({ m with
      pipes := m.pipes ++ [⟨id, ByteArray.empty, isBounded, readOutside, true⟩],
      nextId := m.nextId + 1 },
    id)

/-- Makes a pipe that holds some bytes and nobody writes to. -/
def newContent (m : Machine) (content : ByteArray) : Machine × PipeId :=
  let id := PipeId.unnamed m.nextId
  ({ m with pipes := m.pipes ++ [⟨id, content, true, false, true⟩], nextId := m.nextId + 1 }, id)

/-- Forgets a pipe. -/
def dropPipe (m : Machine) (id : PipeId) : Machine :=
  { m with pipes := m.pipes.filter fun p => p.id != id }

/-- Starts or stops reading from a pipe outside the machine. -/
def readOutside (m : Machine) (id : PipeId) (reads : Bool) : Machine :=
  m.changePipe id fun p => { p with readOutside := reads }

/-! ### Open files -/

/-- The open file of a number. -/
def file? (m : Machine) (id : Nat) : Option OpenFile :=
  m.files.find? (·.id == id)

/-- Whether any process holds a descriptor. -/
def isHeld (m : Machine) (h : Handle) : Bool :=
  m.processes.any fun p => p.ended.isNone && holdsHandle p h

/-- Opens the file of a node. Files that nobody holds any more are closed. -/
def openFile (m : Machine) (node : Nat) (access : Access) : Machine × Nat :=
  let kept := m.files.filter fun f => m.isHeld (.file f.id)
  ({ m with
      files := ⟨m.nextId, node, 0, access⟩ :: kept,
      lost := m.lost.filter fun e => kept.any fun f => f.node == e.1,
      nextId := m.nextId + 1 },
    m.nextId)

/-- The bytes of an open file. -/
def contentOf (m : Machine) (f : OpenFile) : ByteArray :=
  ((m.disk.contentOf? f.node).orElse fun _ => m.lost.lookup f.node).getD ByteArray.empty

/-- Moves to another place in an open file. -/
def seek (m : Machine) (id offset : Nat) : Machine :=
  { m with files := m.files.map fun f => if f.id = id then { f with offset := offset } else f }

/-- Some bytes over those of a file from a place on. A gap before them is filled with zeros. -/
def overwrite (content : ByteArray) (offset : Nat) (bytes : ByteArray) : ByteArray :=
  let gap : ByteArray := ⟨Array.replicate (offset - content.size) 0⟩
  (content ++ gap).extract 0 offset ++ bytes
    ++ content.extract (offset + bytes.size) content.size

/-- Puts other bytes into an open file. -/
def putContent (m : Machine) (f : OpenFile) (content : ByteArray) : Machine :=
  if (m.disk.contentOf? f.node).isSome then
    { m with disk := m.disk.rewrite f.node content }
  else { m with lost := m.lost.map fun e => if e.1 = f.node then (e.1, content) else e }

/-- Writes bytes to an open file. -/
def writeFile (m : Machine) (f : OpenFile) (bytes : ByteArray) : Machine :=
  let content := m.contentOf f
  let start := if f.access = .appending then content.size else f.offset
  (m.putContent f (overwrite content start bytes)).seek f.id (start + bytes.size)

/-- What open files hold that a change takes away from the disk. -/
def newlyLost (m : Machine) (disk : Disk) : List (Nat × ByteArray) :=
  let nodes := (m.files.map (·.node)).eraseDups
  nodes.filterMap fun node =>
    match m.disk.contentOf? node, disk.contentOf? node with
    | some content, none => some (node, content)
    | _, _ => none

/-- Lets some time pass. -/
def tick (m : Machine) (span : Nat) : Machine :=
  { m with clock := m.clock + span, disk := { m.disk with now := m.disk.now + span } }

/-- Puts another disk in place. Processes stay in their directories, and open files stay open. -/
def withDisk (m : Machine) (disk : Disk) : Machine :=
  { m with
    disk := disk, lost := m.lost ++ m.newlyLost disk,
    processes := m.processes.map fun p => { p with cwd := m.disk.follow disk p.cwd } }

/-! ### Writing -/

/-- Whether bytes that are written can get anywhere at all. -/
def isWritable (m : Machine) (h : Handle) : Bool :=
  match h with
  | .reading _ => false
  | .file id => (m.file? id).any (·.isWritable)
  | _ => true

/-- Whether anybody can ever read what is written. -/
def reaches (m : Machine) (h : Handle) : Bool :=
  match h with
  | .writing id => m.hasReader id
  | _ => true

/-- Whether bytes that are written get anywhere. -/
def takesBytes (m : Machine) (h : Handle) : Bool :=
  h != .device .full && m.isWritable h

/-- Writes bytes; none if nobody can ever read them. -/
def write? (m : Machine) (h : Handle) (bytes : ByteArray) : Option Machine :=
  if bytes.isEmpty then some m
  else
    match h with
    | .file id =>
      match m.file? id with
      | some f => some (if f.isWritable then m.writeFile f bytes else m)
      | none => some m
    | .writing id =>
      if m.hasReader id then
        some (m.changePipe id fun p => { p with buffer := p.buffer ++ bytes })
      else none
    | _ => some m

end Machine

end SnippetForge
