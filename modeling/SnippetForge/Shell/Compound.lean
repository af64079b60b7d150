import SnippetForge.Shell.Parser
import SnippetForge.Shell.Redirection

/-!
# Unfolding commands

A compound command becomes tasks, as far as its own control flow needs. A simple command is expanded
first; the expansion stops where the output of a script is needed and goes on when that has come.

A subshell, a part of a pipeline and a command in the background are processes that start as copies
of the one that makes them.
-/

namespace SnippetForge.Machine

open Shell

/-! ### Scripts -/

/-- Shows what has been read of a script, if the process does that. -/
def echoInput (m : Machine) (p : Process) (isFile : Bool) (text left : List Char) : Machine :=
  if isFile && p.hasOption 'v' then
    let read := String.ofList (text.take (text.length - left.length))
    (m.emit p 2 (Text.octetBytes read)).getD m
  else m

/-- Reads the next commands of a script and runs them. What is left of a text that is no file is
known to be nothing. -/
def stepScript (m : Machine) (p : Process) (text : List Char) (lastLine : Nat)
    (isFile isEmpty isTested : Bool) (rest : List Task) : Machine :=
  match readLine ⟨lastLine, p.aliases, [], false⟩ text with
  | .error flaw => m.abort { p with line := flaw.line } ("Syntax error: " ++ flaw.reason) 2
  | .ok none =>
    let m := m.echoInput p isFile text []
    if isEmpty then m.succeedWith p 0 rest else m.continueWith p rest
  | .ok (some (command, left)) =>
    let m := m.echoInput p isFile text left
    let isOver := !isFile && (skipSpace left).isEmpty
    if p.hasOption 'n' then
      m.continueWith p (.script left lastLine isFile isEmpty isTested :: rest)
    else
      let rest :=
        if isOver then rest else .script left lastLine isFile false isTested :: rest
      m.continueWith p (.run command isTested :: rest)

/-! ### Processes -/

/-- The task that ends a script after a failure nobody looks at. -/
def checks (isTested : Bool) : List Task :=
  if isTested then [] else [.check]

/-- Starts the parts of a pipeline, each reading what the one before writes. Gives the processes. -/
def startParts (m : Machine) (p : Process) (isTested : Bool) :
    (input : Option Handle) → List Command → Machine × List Nat
  | _, [] => (m, [])
  | input, part :: rest =>
    let handles :=
      match input with
      | some h => setHandle p.handles 0 h
      | none => p.handles
    match rest with
    | [] =>
      let (m, pid) := m.fork p handles [.run part isTested, .quit]
      (m, [pid])
    | rest =>
      let (m, pipe) := m.newPipe true false
      let (m, pid) := m.fork p (setHandle handles 1 (.writing pipe)) [.run part isTested, .quit]
      let (m, pids) := startParts m p isTested (some (.reading pipe)) rest
      (m, pid :: pids)

/-- Goes on after having started a process in the background. -/
def inBackground (m : Machine) (p : Process) (pid : Nat) (rest : List Task) : Machine :=
  let p := withFreeJob p
  m.putProcess
    { p with
      agenda := rest, status := 0, lastBackground := some pid,
      jobs := ⟨freeJob p, pid, false⟩ :: p.jobs }

/-- Starts a command in the background. It reads nothing and is not disturbed from the keyboard. -/
def startBackground (m : Machine) (p : Process) (body : Command) (rest : List Task) : Machine :=
  let child := { p with ignored := .interrupt :: ⟨3⟩ :: p.ignored }
  match body with
  | .pipeline parts =>
    let (m, pids) := m.startParts child false (some (.device .null)) parts
    m.inBackground p ((pids.getLast?).getD 0) rest
  | body =>
    let handles := setHandle p.handles 0 (.device .null)
    let (m, pid) := m.fork child handles [.run body false, .quit]
    m.inBackground p pid rest

/-- Runs a command in a subshell, which may come with redirections. If nothing is left to do the
process is the subshell itself. -/
def startSubshell (m : Machine) (p : Process) (body : Command) (redirects : List Redirect)
    (isTested : Bool) (rest : List Task) : Machine :=
  let run : List Task := [.run body isTested, .quit]
  let agenda := if redirects.isEmpty then run else .aim [] redirects :: run
  if isLast p rest then m.continueWith p agenda
  else
    let (m, pid) := m.fork p p.handles agenda
    m.continueWith (withFreeJob p) (.await [pid] :: checks isTested ++ rest)

/-! ### Commands -/

/-- The words of a simple command without those that only say how it is looked up. -/
def withoutLookup (words : List String) : List String :=
  words.dropWhile (· == "command")

/-- The tasks of a simple command whose words are expanded. Redirections end with the command, except
those that are all that it is for. -/
def simpleTasks (p : Process) (assignments : List (String × Word)) (fields : List String)
    (redirects : List Redirect) (isTested : Bool) : List Task :=
  if assignments.isEmpty && redirects.isEmpty && !p.hasOption 'x' then
    .invoke [] fields isTested :: checks isTested
  else
    let trace := if p.hasOption 'x' then (handleOf p 2).map fun h => (h, []) else none
    let assign := Task.assign [] assignments fields trace isTested
    if redirects.isEmpty then assign :: checks isTested
    else
      let after : List Task :=
        if (withoutLookup fields).head? = some "exec" then [] else [.restore p.handles]
      .aim [] redirects :: assign :: after ++ checks isTested

/-- Goes on with what has been expanded, after the script whose output is needed first, if one is. -/
def expanded {α β : Type} (m : Machine) (rest : List Task) (left : β → Task)
    (use : Process → α → Machine) (p : Process) (progress : Except String (Progress α β)) :
    Machine :=
  match progress with
  | .error text => m.abort p text 2
  | .ok (.paused p script rest') => m.substitute p script (left rest') rest
  | .ok (.done p result) => use p result

/-- Expands the words of a command and goes on with it. -/
def stepExpand (m : Machine) (p : Process) (command : Command) (isTested : Bool)
    (rest : List Task) : Machine :=
  match command with
  | .simple line assignments words redirects =>
    m.expanded rest (fun words => .goOn (.simple line assignments words redirects) isTested)
      (fun p fields =>
        m.continueWith p (simpleTasks p assignments fields redirects isTested ++ rest))
      p (expandWords m.disk p [] words)
  | .each line name values body =>
    m.expanded rest (fun values => .goOn (.each line name values body) isTested)
      (fun p fields =>
        if fields.isEmpty then m.succeedWith p 0 rest
        else m.continueWith p (.each name fields body isTested :: rest))
      p (expandWords m.disk p [] values)
  | .select line subject branches =>
    m.expanded rest (fun subject => .goOn (.select line subject branches) isTested)
      (fun p text => m.continueWith p (.select text branches isTested :: rest))
      p (expandText p false subject)
  | command => m.continueWith p (.run command isTested :: rest)

/-- A process at a line. -/
def atLine (p : Process) (line : Nat) : Process :=
  { p with line := line, outputStatus := 0 }

/-- Starts a command. -/
def stepRun (m : Machine) (p : Process) (command : Command) (isTested : Bool)
    (rest : List Task) : Machine :=
  match command with
  | .nothing => m.succeedWith p 0 rest
  | .simple line _ _ _ => m.stepExpand (atLine p line) command isTested rest
  | .each line _ _ _ => m.stepExpand (atLine p line) command isTested rest
  | .select line _ _ => m.stepExpand (atLine p line) command isTested rest
  | .redirected line (.subshell body) redirects =>
    m.startSubshell (atLine p line) body redirects isTested rest
  | .redirected line body redirects =>
    m.continueWith (atLine p line)
      (.aim [] redirects :: .run body isTested :: .restore p.handles :: rest)
  | .pipeline parts =>
    let (m, pids) := m.startParts p isTested none parts
    m.continueWith p (.await pids :: checks isTested ++ rest)
  | .negation body => m.continueWith p (.run body true :: .negate :: rest)
  | .sequence first second =>
    m.continueWith p (.run first isTested :: .run second isTested :: rest)
  | .both first second =>
    m.continueWith p (.run first true :: .onSuccess second isTested :: rest)
  | .either first second =>
    m.continueWith p (.run first true :: .onFailure second isTested :: rest)
  | .background body => m.startBackground p body rest
  | .subshell body => m.startSubshell p body [] isTested rest
  | .loop isNegated condition body =>
    m.continueWith p (.run condition true :: .loop isNegated condition body isTested 0 :: rest)
  | .conditional condition yes no =>
    m.continueWith p (.run condition true :: .choose yes no isTested :: rest)
  | .define name body =>
    let others := p.functions.filter fun f => f.1 != name
    m.succeedWith { p with functions := (name, body) :: others } 0 rest

/-- Starts the next round of a loop over values. -/
def stepEach (m : Machine) (p : Process) (name : String) (values : List String) (body : Command)
    (isTested : Bool) (rest : List Task) : Machine :=
  match values with
  | [] => m.continueWith p rest
  | value :: values =>
    match p.assign? name value with
    | some p =>
      m.continueWith p (.run body isTested :: .each name values body isTested :: rest)
    | none => m.abort p (name ++ ": is read only") 2

/-- Tries the next pattern of a selection. -/
def stepSelect (m : Machine) (p : Process) (subject : String)
    (branches : List (List Word × Command)) (isTested : Bool) (rest : List Task) : Machine :=
  match branches with
  | [] => m.succeedWith p 0 rest
  | ([], _) :: branches => m.continueWith p (.select subject branches isTested :: rest)
  | (word :: words, body) :: branches =>
    m.expanded rest (fun word => .select subject ((word :: words, body) :: branches) isTested)
      (fun p pattern =>
        if pattern.accepts subject.toList then m.continueWith p (.run body isTested :: rest)
        else m.continueWith p (.select subject ((words, body) :: branches) isTested :: rest))
      p (expandPattern p word)

/-! ### The output of scripts -/

/-- Puts output in the marked place of a command. -/
def fillCommand (output : String) : Command → Command
  | .simple line assignments words redirects =>
    .simple line assignments (words.map (fillParts output)) redirects
  | .each line name values body => .each line name (values.map (fillParts output)) body
  | .select line subject branches => .select line (fillParts output subject) branches
  | command => command

/-- Puts output in the marked place of a task. -/
def fillTask (output : String) : Task → Task
  | .goOn command isTested => .goOn (fillCommand output command) isTested
  | .assign former ((name, word) :: left) words trace isTested =>
    .assign former ((name, fillParts output word) :: left) words trace isTested
  | .aim done (.mk descriptor kind target :: left) =>
    .aim done (.mk descriptor kind (fillParts output target) :: left)
  | .select subject ((word :: words, body) :: branches) isTested =>
    .select subject ((fillParts output word :: words, body) :: branches) isTested
  | task => task

/-- The text that some output becomes: without the line ends at its end, and without null bytes. -/
def outputText (bytes : ByteArray) : String :=
  let cs := (Text.octets bytes).toList.filter fun c => c.toNat != 0
  String.ofList (cs.reverse.dropWhile (· == '\n')).reverse

/-- Goes on with a task when the script whose output it needs has ended; none if it runs. -/
def stepFill (m : Machine) (p : Process) (pid : Nat) (pipe : PipeId) (task : Task)
    (rest : List Task) : Option Machine :=
  match m.exitOf? pid with
  | some status =>
    if m.isDrained pipe then
      let output := outputText (m.buffered pipe)
      let p :=
        { p with
          handles := p.handles.filter fun e => e.1 != hiddenDescriptor pipe,
          outputStatus := status.toNat }
      let notice := m.endNotice pid
      let m := ((m.markReaped p.pid).reap [pid]).dropPipe pipe
      some (m.finishCommand p "" notice p.status (fillTask output task :: rest))
    else none
  | none => none

end SnippetForge.Machine
