import SnippetForge.Shell.Builtin.Input
import SnippetForge.Shell.Builtin.Jobs
import SnippetForge.Shell.Builtin.Places
import SnippetForge.Shell.Builtin.Signals
import SnippetForge.Shell.Compound
import SnippetForge.Shell.Unwinding

/-!
# Invoking commands

What a command means whose words are expanded and whose redirections are open: assignments alone, a
command of the shell, a command that the script has named, or a program. Commands of the shell work
in place; a program runs in a process of its own, or in place of a script that has nothing else to
do.

Assignments in front of a command last as long as it runs, except those in front of the commands
that no function can replace.
-/

namespace SnippetForge.Machine

open Shell

/-! ### Assignments -/

/-- What stands in front of a command that is written down. -/
def tracePrefix (p : Process) : String :=
  let text := ((p.value? "PS4").getD "").toList
  match readQuoted (.ofText text p.aliases) (10 * text.length + 20) false text with
  | .ok (word, _) =>
    match expandParts p false false word with
    | .ok (.done _ atoms) => textOf atoms
    | _ => String.ofList text
  | .error _ => String.ofList text

/-- Writes down a command, if there is a place for that. -/
def writeTrace (m : Machine) (p : Process) (trace : Option (Handle × List String))
    (words : List String) : Machine :=
  match trace with
  | some (h, assignments) =>
    let line := tracePrefix p ++ " ".intercalate (assignments ++ words) ++ "\n"
    (m.write? h (Text.octetBytes line)).getD m
  | none => m

/-- Whether assignments in front of some words stay. -/
def keepsAssignments (words : List String) : Bool :=
  match words with
  | [] => true
  | name :: _ => specialBuiltins.contains name || name == "local"

/-- Carries out the next assignment, or runs the command. -/
def stepAssign (m : Machine) (p : Process) (former : List Former) (left : List (String × Word))
    (words : List String) (trace : Option (Handle × List String)) (isTested : Bool)
    (rest : List Task) : Machine :=
  match left with
  | [] =>
    (m.writeTrace p trace words).continueWith p (.invoke former words isTested :: rest)
  | (name, word) :: left =>
    m.expanded rest (fun word => .assign former ((name, word) :: left) words trace isTested)
      (fun p value =>
        match p.assign? name value with
        | none => m.abort p (name ++ ": is read only") 2
        | some changed =>
          let trace := trace.map fun t => (t.1, t.2 ++ [name ++ "=" ++ value])
          if keepsAssignments words then
            let isForProgram := words.head? = some "exec" && words.length != 1
            let changed := if isForProgram then changed.exportVariable name else changed
            m.continueWith changed (.assign former left words trace isTested :: rest)
          else
            m.continueWith (changed.exportVariable name)
              (.assign ((name, p.named? name) :: former) left words trace isTested :: rest))
      p (expandText p true word)

/-! ### Replies -/

/-- Whether output of a process has nowhere to go. -/
def losesOutput (m : Machine) (p : Process) : Bool :=
  match handleOf p 1 with
  | none => true
  | some (.writing id) => p.ignored.contains Signal.pipe && !m.hasReader id
  | some h => !m.takesBytes h

/-- Goes on after a command of the shell. One that is needed ends the script when it fails. -/
def applyReply (m : Machine) (r : Reply) (name : String) (isNeeded : Bool) (rest : List Task) :
    Machine :=
  let p := r.process
  let isLost := r.out != "" && m.losesOutput p
  let complaints := r.complaints ++ if isLost then [name ++ ": I/O error"] else []
  let err := String.join (complaints.map (complaintOf p (some name))) ++ r.notes
  if r.isError && isNeeded then m.finishCommand p "" err 2 [.quit]
  else if isLost then m.finishCommand p "" err 1 rest
  else m.finishCommand p r.out err r.status rest

/-! ### Parts of the script -/

/-- Runs a text as a part of the script. -/
def evaluateText (m : Machine) (p : Process) (text : String) (isTested : Bool)
    (rest : List Task) : Machine :=
  m.continueWith { p with label := some "eval" }
    (scriptTask text false isTested :: .relabel p.label :: rest)

/-- The path of a file that is to be run as a part of the script. -/
def sourcePath? (m : Machine) (p : Process) (name : String) : Option String :=
  if name.toList.contains '/' then some name
  else
    ((searchItems p.searchPath).map (inDirectory · name)).find? fun path =>
      m.disk.isFile p.cwd ⟨Text.decoded path⟩

/-- Runs a file as a part of the script. -/
def source (m : Machine) (p : Process) (words : List String) (isNeeded : Bool)
    (rest : List Task) : Machine :=
  let refuse (text : String) : Machine := m.applyReply (.error p text) "." isNeeded rest
  match optionsOf "" words with
  | .error text => refuse text
  | .ok (_, []) => m.succeedWith p 0 rest
  | .ok (_, name :: _) =>
    match m.sourcePath? p name with
    | none => refuse (name ++ ": not found")
    | some path =>
      let run (text : String) : Machine :=
        m.continueWith { p with label := some path }
          (scriptTask text true false :: .sourced :: .relabel p.label :: rest)
      match m.disk.readBytes p.cwd ⟨Text.decoded path⟩ with
      | .ok bytes => run (Text.octets bytes)
      | .error (.system .isDirectory) => run ""
      | .error fault => refuse ("cannot open " ++ path ++ ": " ++ openWords "No such file" fault)

/-! ### Commands of the shell -/

/-- Writes words by a format. -/
def formatWords (p : Process) (words : List String) : Reply :=
  match optionsOf "" words with
  | .error text => .error p text
  | .ok (_, []) => .error p "usage: printf format [arg ...]"
  | .ok (_, format :: words) =>
    let f := printf format words
    let status := if f.flaw.isSome then 2 else if f.complaints.isEmpty then 0 else 1
    let complaints := f.complaints.map (fun c => c.1 ++ ": " ++ c.2.words)
      ++ (f.flaw.map FormatFlaw.words).toList
    ⟨p, f.text, complaints, "", status, f.flaw.isSome⟩

/-- What a command of the shell comes to that only works on the process; none for other commands. -/
def replyOf? (m : Machine) (p : Process) (name : String) (words : List String) : Option Reply :=
  match name with
  | "true" => some (.done p)
  | ":" => some (.done p)
  | "false" => some (.ofStatus p 1)
  | "echo" => some (.print p (echo words))
  | "printf" => some (formatWords p words)
  | "pwd" => some (Builtin.pwd p words)
  | "test" => some (Builtin.test m p words)
  | "[" =>
    if words.getLast? = some "]" then some (Builtin.test m p words.dropLast)
    else some (.error p "missing ]")
  | "cd" => some (Builtin.cd m p words)
  | "chdir" => some (Builtin.cd m p words)
  | "export" => some (Builtin.exportWords p words)
  | "readonly" => some (Builtin.readonlyWords p words)
  | "local" => some (Builtin.localWords p words)
  | "unset" => some (Builtin.unsetWords p words)
  | "shift" => some (Builtin.shiftWords p words)
  | "set" => some (Builtin.setWords p words)
  | "getopts" => some (Builtin.getopts p words)
  | "alias" => some (Builtin.aliasWords p words)
  | "unalias" => some (Builtin.unaliasWords p words)
  | "umask" => some (Builtin.umaskWords p words)
  | "trap" => some (Builtin.trap p words)
  | "type" => some (Builtin.type m p words)
  | "hash" => some (Builtin.hash m p words)
  | "jobs" => some (Builtin.jobs m p words)
  | "times" => some (Builtin.times p)
  | "ulimit" => some (Builtin.limits p words)
  | "fg" => some (.error p "No current job")
  | "bg" => some (.error p "No current job")
  | _ => none

/-- Ends the script, with the status from before the signal that is being handled if no other is
given. -/
def exitWith (m : Machine) (p : Process) (words : List String) (isNeeded : Bool)
    (rest : List Task) : Machine :=
  match words with
  | [] => m.leave p ((recalled? rest).getD p.status)
  | word :: _ =>
    match naturalWord word with
    | .ok n => m.leave p n
    | .error text => m.applyReply (.error p text) "exit" isNeeded rest

/-- Leaves a command that the script has named, a file or the script. -/
def returnWith (m : Machine) (p : Process) (words : List String) (isNeeded : Bool)
    (rest : List Task) : Machine :=
  match words with
  | [] => m.continueWith p (leaveCommand rest)
  | word :: _ =>
    match naturalWord word with
    | .ok n => m.succeedWith p n (leaveCommand rest)
    | .error text => m.applyReply (.error p text) "return" isNeeded rest

/-- Leaves loops, or goes on with the next round of one. -/
def leaveLoop (m : Machine) (p : Process) (name : String) (words : List String) (isNeeded : Bool)
    (rest : List Task) : Machine :=
  match naturalWord (words.headD "1") with
  | .ok (n + 1) =>
    m.succeedWith p 0
      (if isInLoop rest then leaveLoops (name == "continue") (n + 1) rest else rest)
  | .ok 0 => m.applyReply (.error p ("Illegal number: " ++ words.headD "")) name isNeeded rest
  | .error text => m.applyReply (.error p text) name isNeeded rest

/-- Takes the place of the script, or keeps the redirections if no program is named. -/
def execute (m : Machine) (p : Process) (words : List String) (isNeeded : Bool)
    (rest : List Task) : Machine :=
  match optionsOf "" words with
  | .error text => m.applyReply (.error p text) "exec" isNeeded rest
  | .ok (_, []) => m.succeedWith p 0 rest
  | .ok (_, words) => m.become { p with bindings := p.handedOn } (some "exec") words

/-- Waits for processes in the background. -/
def awaitJobs (m : Machine) (p : Process) (words : List String) (rest : List Task) : Machine :=
  match Builtin.awaitedAll p words with
  | .error text => m.applyReply (.error p text) "wait" false rest
  | .ok pids =>
    if words.isEmpty then m.continueWith p (.waitAll :: rest)
    else m.succeedWith p 127 (.waitFor pids :: rest)

/-- Says what a command word means, without running it. -/
def describeCommand (m : Machine) (p : Process) (words : List String) (rest : List Task) :
    Machine :=
  let reply : Reply :=
    match optionsOf "pvV" words with
    | .error text => .error p text
    | .ok (options, names) =>
      match options.filter (fun o => o.1 != 'p'), names with
      | o :: _, name :: _ => Builtin.describe m (o.1 == 'V') (.done p) name
      | _, _ => .done p
  m.applyReply reply "command" false rest

/-- Runs a command of the shell; none if it has to wait for input. -/
def runBuiltin (m : Machine) (p : Process) (name : String) (words : List String)
    (isNeeded isTested : Bool) (rest : List Task) : Option Machine :=
  match name with
  | "eval" =>
    if words.isEmpty then some (m.succeedWith p 0 rest)
    else some (m.evaluateText p (" ".intercalate words) isTested rest)
  | "." => some (m.source p words isNeeded rest)
  | "exec" => some (m.execute p words isNeeded rest)
  | "exit" => some (m.exitWith p words isNeeded rest)
  | "return" => some (m.returnWith p words isNeeded rest)
  | "break" => some (m.leaveLoop p name words isNeeded rest)
  | "continue" => some (m.leaveLoop p name words isNeeded rest)
  | "wait" => some (m.awaitJobs p words rest)
  | "command" => some (m.describeCommand p words rest)
  | "kill" =>
    let (m, reply) := Builtin.kill m p words
    let p := ((m.process? p.pid).map fun q =>
      { reply.process with pending := q.pending, ended := q.ended }).getD reply.process
    let isStopped := ((m.process? p.pid).bind (·.agenda.head?)).any Task.isSuspended
    let rest := if isStopped then .suspended :: rest else rest
    if p.ended.isSome then some m
    else some (m.applyReply { reply with process := p } name isNeeded rest)
  | "read" =>
    (Builtin.read? m p words).map fun (m, reply) => m.applyReply reply name isNeeded rest
  | name =>
    some (m.applyReply ((replyOf? m p name words).getD (.done p)) name isNeeded rest)

/-! ### Functions and programs -/

/-- Runs a command that the script has named. -/
def call (m : Machine) (p : Process) (body : Command) (words : List String) (isTested : Bool)
    (rest : List Task) : Machine :=
  let frame : Frame := ⟨p.arguments, p.cursor, [], none⟩
  m.putProcess
    { p with
      arguments := p.arguments.take 1 ++ words, cursor := ⟨1, none⟩, frame := some frame,
      agenda := .run body isTested :: .returned p.frame :: rest }

/-- Puts back what a command of the script has replaced. -/
def stepReturned (m : Machine) (p : Process) (outer : Option Frame) (rest : List Task) :
    Machine :=
  match p.frame with
  | some frame =>
    let p := p.putBack frame.bindings
    m.putProcess
      { p with
        arguments := frame.arguments, cursor := frame.cursor,
        options := frame.options.getD p.options, frame := outer, agenda := rest }
  | none => m.putProcess { p with frame := outer, agenda := rest }

/-- Runs a program. -/
def runProgram (m : Machine) (p : Process) (words : List String) (rest : List Task) : Machine :=
  let name := words.headD ""
  let isNamed := !name.toList.contains '/'
  let isFound := (Builtin.programPath? m p name).isSome
  let p := if isNamed && isFound then Builtin.remember p name else p
  match m.findProgram p words with
  | .error fault =>
    if isNamed && !isFound then m.complain p (name ++ ": " ++ openWords "not found" fault) 127 rest
    else if isLast p rest then m.become p p.label words
    else m.complain p (name ++ ": " ++ openWords "not found" fault) (startStatus fault) rest
  | .ok _ =>
    if isLast p rest then m.become { p with bindings := p.handedOn } p.label words
    else
      let (m, pid) := m.fork p p.handles []
      match m.process? pid with
      | some child =>
        let m := m.continueWith (withFreeJob p) (.await [pid] :: rest)
        m.become { child with traps := [], bindings := p.handedOn } p.label words
      | none => m.continueWith p rest

/-! ### Invocations -/

/-- The words of a command that comes after a word that asks for no function; none if that word is
to be run itself. -/
def looked? : List String → Option (List String)
  | [] => none
  | ["--"] => none
  | "--" :: words => some words
  | word :: words =>
    match word.toList with
    | '-' :: c :: letters => if (c :: letters).all (· == 'p') then looked? words else none
    | _ => some (word :: words)

/-- The command that some words come down to, and whether no function may stand in for it. -/
def plainCommand (p : Process) : (fuel : Nat) → (isPlain : Bool) → List String →
    Bool × List String
  | 0, isPlain, words => (isPlain, words)
  | fuel + 1, isPlain, words =>
    match words with
    | "command" :: arguments =>
      if !isPlain && (p.functions.lookup "command").isSome then (isPlain, words)
      else
        match looked? arguments with
        | some words => plainCommand p fuel true words
        | none => (isPlain, words)
    | words => (isPlain, words)

/-- Runs a command whose words are expanded and whose redirections are open; none if it has to
wait for input. -/
def stepInvoke (m : Machine) (p : Process) (former : List Former) (words : List String)
    (isTested : Bool) (rest : List Task) : Option Machine :=
  let rest := if former.isEmpty then rest else .forget former :: rest
  match plainCommand p (words.length + 1) false words with
  | (_, []) => some (m.succeedWith p p.outputStatus rest)
  | (isPlain, name :: arguments) =>
    if specialBuiltins.contains name then
      m.runBuiltin p name arguments (!isPlain) isTested rest
    else
      match if isPlain then none else p.functions.lookup name with
      | some body => some (m.call p body arguments isTested rest)
      | none =>
        if Builtin.names.contains name then
          m.runBuiltin p name arguments (name == "local" && !isPlain) isTested rest
        else some (m.runProgram p (name :: arguments) rest)

end SnippetForge.Machine
