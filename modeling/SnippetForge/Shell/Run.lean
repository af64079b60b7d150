import SnippetForge.Shell.Consulting
import SnippetForge.Shell.Invocation
import SnippetForge.Shell.Launching

/-!
# Running scripts

One step of one process. A process takes the first task of its agenda and puts the tasks that this
one consists of in its place, so a compound command unfolds as far as its own control flow needs.
A task that has to wait, for a time, another process, input or the other end of a named pipe, makes
no step until what it waits for is there.

Processes take turns. When none of them can make a step, the clock goes on to the next point in time
that one of them waits for.
-/

namespace SnippetForge.Machine

open Shell

/-! ### Programs of the system -/

/-- Becomes a shell that runs its input; none if that is not there yet. -/
def stepInputScript (m : Machine) (p : Process) (rest : List Task) : Option Machine :=
  let supply := m.supply p
  if supply.isWhole then
    let (m, p) := m.use p supply.source.content.size
    let p := { p with handles := setHandle p.handles 0 (.device .null) }
    some (m.continueWith p (scriptTask supply.source.text true false :: rest))
  else some (m.starve p ["sh"] rest)

/-- Whether some words of `cat` ask for its input as it is. -/
def handsOn (words : List String) : Bool :=
  match Utility.Call.read Utility.catTable words with
  | .ok call => Utility.copiesInput call && call.operands.all (· == "-") && call.operands.length < 2
  | .error _ => false

/-- Runs a program of the system; none if it has to wait. -/
def stepUtility (m : Machine) (p : Process) (name : String) (words : List String)
    (rest : List Task) : Option Machine :=
  match name with
  | "sh" => m.stepInputScript p rest
  | "sleep" => some (m.stepSleep p words rest)
  | "kill" => some (m.stepKill p words rest)
  | "yes" => m.stepYes p words rest
  | "env" => some (m.stepEnvironment p words rest)
  | "nohup" => some (m.stepUnhung p words rest)
  | "setsid" => some (m.stepApart p words rest)
  | "nice" => some (m.stepNice p words rest)
  | "stdbuf" => some (m.stepBuffered p words rest)
  | "timeout" => some (m.stepLimited p words rest)
  | "find" => some (m.stepFind p words rest)
  | "awk" => some (m.stepRecords p words rest)
  | "mawk" => some (m.stepRecords p words rest)
  | "nawk" => some (m.stepRecords p words rest)
  | "xargs" => m.stepXargs p words rest
  | name =>
    if name = "cat" && handsOn words then m.stepHandOn p rest
    else
      match Utility.programs.lookup name with
      | some program => some (m.stepPlain p name program words rest)
      | none => some (m.succeedWith p 0 rest)

/-- Runs a program again when there is more to read. -/
def stepStarved (m : Machine) (p : Process) (words : List String) (rest : List Task) :
    Option Machine :=
  let supply := m.supplyOf (handleOf p 0)
  if supply.isWhole || !supply.source.content.isEmpty then
    m.stepUtility p (words.headD "") (words.drop 1) rest
  else none

/-! ### Waiting -/

/-- Goes on with a process when the processes have ended that it waits for; none if one runs. -/
def stepAwait (m : Machine) (p : Process) (pids : List Nat) (rest : List Task) : Option Machine :=
  match m.seeEnded? p pids with
  | some m => some m
  | none =>
    if pids.any m.isAlive then none
    else
      let status := (((pids.getLast?).bind m.exitOf?).map ExitStatus.toNat).getD 127
      some ((m.reap pids).succeedWith p status rest)

/-- The status of a job that has ended. -/
def endedStatus (m : Machine) (job : BackgroundJob) : Nat :=
  ((m.exitOf? job.pid).map ExitStatus.toNat).getD 127

/-- Goes on with a process when the next of some processes in the background has ended; none if it
runs. One that is no job is passed over. -/
def stepWaitFor (m : Machine) (p : Process) (pids : List Nat) (rest : List Task) :
    Option Machine :=
  match pids with
  | [] => some (m.continueWith p rest)
  | pid :: pids =>
    match p.jobs.find? (·.pid == pid), m.seeEnded? p [pid] with
    | none, _ => some (m.continueWith p (.waitFor pids :: rest))
    | some _, some m => some m
    | some job, none =>
      if m.isAlive pid then none
      else
        let jobs := p.jobs.map fun j => if j = job then { j with isWaited := true } else j
        some (m.succeedWith { p with jobs := jobs } (m.endedStatus job) (.waitFor pids :: rest))

/-- Goes on with a process when all its jobs have ended; none if one runs. -/
def stepWaitAll (m : Machine) (p : Process) (rest : List Task) : Option Machine :=
  match m.seeEnded? p [] with
  | some m => some m
  | none =>
    let jobs := p.jobs.map fun j => if m.isAlive j.pid then j else { j with isWaited := true }
    if p.jobs.any fun j => m.isAlive j.pid then none
    else some (m.succeedWith { p with jobs := jobs } 0 rest)

/-! ### Signals -/

/-- Whether a signal is handled before a task. A command that has begun is finished first. -/
def isInterruptible : List Task → Bool
  | .await _ :: _ => false
  | .fill _ _ _ :: _ => false
  | .redirect _ _ _ :: _ => false
  | .aim _ _ :: _ => false
  | .assign _ _ _ _ _ :: _ => false
  | .invoke _ _ _ :: _ => false
  | .goOn _ _ :: _ => false
  | .suspended :: _ => false
  | _ => true

/-- Starts what a process does on a signal. Waiting for processes in the background ends by it. -/
def stepTrap (m : Machine) (p : Process) (signal : Signal) (pending : List Signal) : Machine :=
  let p := { p with pending := pending }
  let handle (status : Nat) (rest : List Task) : Machine :=
    match p.traps.lookup signal with
    | some action => m.continueWith p (scriptTask action false false :: .recall status :: rest)
    | none => m.continueWith p rest
  match p.agenda with
  | .waitAll :: rest => handle (128 + signal.number) rest
  | .waitFor _ :: rest => handle (128 + signal.number) rest
  | rest => handle p.status rest

/-! ### Steps -/

/-- Does a task of a process; none if it has to wait. -/
def stepTask (m : Machine) (p : Process) (task : Task) (rest : List Task) : Option Machine :=
  match task with
  | .run command isTested =>
    some (if p.hasOption 'n' then m.continueWith p rest else m.stepRun p command isTested rest)
  | .goOn command isTested => some (m.stepExpand p command isTested rest)
  | .script text lastLine isFile isEmpty isTested =>
    some (m.stepScript p text lastLine isFile isEmpty isTested rest)
  | .fill pid pipe task => m.stepFill p pid pipe task rest
  | .await pids => m.stepAwait p pids rest
  | .waitFor pids => m.stepWaitFor p pids rest
  | .waitAll => m.stepWaitAll p rest
  | .check =>
    some (if p.status != 0 && p.hasOption 'e' then m.leave p p.status else m.continueWith p rest)
  | .negate => some (m.succeedWith p (if p.status = 0 then 1 else 0) rest)
  | .onSuccess command isTested =>
    some (m.continueWith p (if p.status = 0 then .run command isTested :: rest else rest))
  | .onFailure command isTested =>
    some (m.continueWith p (if p.status = 0 then rest else .run command isTested :: rest))
  | .choose yes no isTested =>
    some (m.continueWith p (.run (if p.status = 0 then yes else no) isTested :: rest))
  | .again isNegated condition body isTested =>
    some (m.continueWith p
      (.run condition true :: .loop isNegated condition body isTested p.status :: rest))
  | .loop isNegated condition body isTested last =>
    if (p.status == 0) != isNegated then
      some (m.continueWith p
        (.run body isTested :: .again isNegated condition body isTested :: rest))
    else some (m.succeedWith p last rest)
  | .each name values body isTested => some (m.stepEach p name values body isTested rest)
  | .select subject branches isTested => some (m.stepSelect p subject branches isTested rest)
  | .aim done left => some (m.stepAim p done left rest)
  | .redirect descriptor kind target => m.stepRedirect p descriptor kind target rest
  | .assign former left words trace isTested =>
    some (m.stepAssign p former left words trace isTested rest)
  | .invoke former words isTested => m.stepInvoke p former words isTested rest
  | .restore handles => some (m.putProcess { p with handles := handles, agenda := rest })
  | .returned outer => some (m.stepReturned p outer rest)
  | .sourced => some (m.continueWith p rest)
  | .relabel label => some (m.putProcess { p with label := label, agenda := rest })
  | .forget former => some (m.continueWith (p.putBack former) rest)
  | .recall status => some (m.succeedWith p status rest)
  | .sleepUntil time => if time ≤ m.clock then some (m.continueWith p rest) else none
  | .utility words => m.stepUtility p (words.headD "") (words.drop 1) rest
  | .starved words => m.stepStarved p words rest
  | .deliver program pieces start code => m.stepDeliver p program pieces start code rest
  | .batch isStrict steps status => some (m.stepBatch p isStrict steps status rest)
  | .batched isStrict name pid failure steps status =>
    m.stepBatched p isStrict name pid failure steps status rest
  | .timed pid watch => m.stepTimed p pid watch rest
  | .consult c r => some (m.stepConsult p c r rest)
  | .consulted c pid pipe => m.stepConsulted p c pid pipe rest
  | .print descriptor bytes =>
    some (((m.emit p descriptor bytes).getD m).continueWith p rest)
  | .suspended => none
  | .quit => some (m.leave p p.status)

/-- Makes a step of a process; none if it has to wait. -/
def stepProcess (m : Machine) (p : Process) : Option Machine :=
  match p.pending, p.agenda with
  | signal :: pending, agenda =>
    if isInterruptible agenda then some (m.stepTrap p signal pending)
    else
      match agenda with
      | [] => none
      | task :: rest => m.stepTask p task rest
  | [], [] => some (m.leave p p.status)
  | [], task :: rest => m.stepTask p task rest

/-! ### Turns -/

/-- How long a step takes. -/
def stepTime : Nat := 10000

/-- How many steps a process makes before others get their turn. -/
def turnLength : Nat := 400

/-- The processes that are alive, in the order in which they get their turns. A process that has
made fewer turns comes first, and then an older one. -/
def byTurn (m : Machine) : List Process :=
  (m.processes.filter fun p => p.ended.isNone).mergeSort fun p q =>
    p.steps / turnLength ≤ q.steps / turnLength

/-- Makes a step of the first process that can make one. -/
def step? (m : Machine) : Option Machine :=
  (m.byTurn.findSome? fun p => m.stepProcess { p with steps := p.steps + 1 }).map
    (·.tick stepTime)

/-- The point in time that a process waits for. -/
def awaitedTime? (p : Process) : Option Nat :=
  match p.ended, p.agenda with
  | none, .sleepUntil time :: _ => some time
  | none, .timed _ watch :: _ => watch.deadline
  | _, _ => none

/-- The first point in time that a process waits for. -/
def nextTime? (m : Machine) : Option Nat :=
  (m.processes.filterMap awaitedTime?).min?

end SnippetForge.Machine
