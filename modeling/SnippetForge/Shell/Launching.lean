import SnippetForge.Shell.Execution
import SnippetForge.Shell.Utility.Batching
import SnippetForge.Shell.Utility.Find

/-!
# Programs that start others

A program that only prepares another one, by its variables, its directory or the signals it ignores,
becomes that program. One that watches over another, or starts several one after the other, runs
them in processes of their own and waits.
-/

namespace SnippetForge.Machine

open Shell

/-! ### Becoming another program -/

/-- The name by which a program was started. -/
def labelOf (p : Process) (program : String) : String :=
  p.arguments.headD program

/-- The program that words start, as other programs look it up. -/
def findLaunched (m : Machine) (p : Process) (words : List String) : Except Fault Loaded :=
  if words.headD "" = "" then .error (.system .noEntry) else m.findProgram p words

/-- Becomes the program that words start. `refusal` is said if that cannot be started. -/
def launch (m : Machine) (p : Process) (program refusal : String) (words : List String)
    (rest : List Task) : Machine :=
  match m.findLaunched p words with
  | .ok _ => m.become p none words
  | .error fault =>
    let err := labelOf p program ++ ": " ++ refusal ++ ": " ++ Utility.wordsOf fault ++ "\n"
    m.finishCommand p "" err (startStatus fault) rest

/-- Fails because a program is used in a wrong way. -/
def misused (m : Machine) (p : Process) (program text : String) (code : Nat) (rest : List Task) :
    Machine :=
  m.finishCommand p "" (misuseText (labelOf p program) text) code rest

/-- Goes on with what the words of a program say that starts another one. -/
def withLeading (m : Machine) (p : Process) (program : String) (t : Utility.OptionTable)
    (code : Nat) (words : List String) (rest : List Task) (use : Utility.Call → Machine) :
    Machine :=
  match Utility.Call.readLeading t words with
  | .error flaw => m.misused p program flaw.words code rest
  | .ok call => use call

/-- Becomes a program that does not hear when the line is hung up. -/
def stepUnhung (m : Machine) (p : Process) (words : List String) (rest : List Task) : Machine :=
  m.withLeading p "nohup" .empty 125 words rest fun call =>
    let p := { p with ignored := ⟨1⟩ :: p.ignored }
    let refusal := "failed to run command " ++ Utility.quoted (call.operands.headD "")
    if call.operands.isEmpty then m.misused p "nohup" "missing operand" 125 rest
    else m.launch p "nohup" refusal call.operands rest

/-- Becomes a program of a session of its own. -/
def stepApart (m : Machine) (p : Process) (words : List String) (rest : List Task) : Machine :=
  let t : Utility.OptionTable := ⟨"cfw", [("ctty", 'c'), ("fork", 'f'), ("wait", 'w')]⟩
  m.withLeading p "setsid" t 1 words rest fun call =>
    let refusal := "failed to execute " ++ call.operands.headD ""
    if call.operands.isEmpty then m.misused p "setsid" "no command specified" 1 rest
    else if call.has 'f' && !call.has 'w' then
      let (m, pid) := m.fork p p.handles []
      match m.process? pid with
      | some child => (m.succeedWith p 0 rest).launch child "setsid" refusal call.operands [.quit]
      | none => m.succeedWith p 0 rest
    else m.launch p "setsid" refusal call.operands rest

/-- Words in which a number right after a dash is the value of an option. -/
def withPlainNumber : List String → List String
  | [] => []
  | word :: words =>
    match word.toList with
    | '-' :: c :: cs =>
      let digits := if c = '-' then cs else c :: cs
      if !digits.isEmpty && digits.all Char.isDigit then "-n" :: String.ofList (c :: cs) :: words
      else word :: words
    | _ => word :: words

/-- Becomes a program of another priority. -/
def stepNice (m : Machine) (p : Process) (words : List String) (rest : List Task) : Machine :=
  let t : Utility.OptionTable := ⟨"n:", [("adjustment", 'n')]⟩
  m.withLeading p "nice" t 125 (withPlainNumber words) rest fun call =>
    match call.value? 'n', call.operands with
    | some text, operands =>
      if (Text.integer? text).isNone then
        let err := labelOf p "nice" ++ ": invalid adjustment " ++ Utility.marked text ++ "\n"
        m.finishCommand p "" err 125 rest
      else if operands.isEmpty then
        m.misused p "nice" "a command must be given with an adjustment" 125 rest
      else m.launch p "nice" (Utility.marked (operands.headD "")) operands rest
    | none, [] => m.finishOutcome p "nice" (Utility.prints (m.siteOf p "nice" none) "0\n") rest
    | none, words => m.launch p "nice" (Utility.marked (words.headD "")) words rest

/-- Becomes a program whose streams keep other amounts back. -/
def stepBuffered (m : Machine) (p : Process) (words : List String) (rest : List Task) : Machine :=
  let t : Utility.OptionTable := ⟨"i:o:e:", [("input", 'i'), ("output", 'o'), ("error", 'e')]⟩
  m.withLeading p "stdbuf" t 125 words rest fun call =>
    let isMode (text : String) : Bool := text == "L" || (Utility.countOf? text.toList).isSome
    match call.options.find? fun o => !isMode o.2 with
    | some o =>
      let err := labelOf p "stdbuf" ++ ": invalid mode " ++ Utility.marked o.2 ++ "\n"
      m.finishCommand p "" err 125 rest
    | none =>
      if call.operands.isEmpty then m.misused p "stdbuf" "missing operand" 125 rest
      else if call.options.isEmpty then
        m.misused p "stdbuf" "you must specify a buffering mode option" 125 rest
      else
        let refusal := "failed to run command " ++ Utility.marked (call.operands.headD "")
        m.launch p "stdbuf" refusal call.operands rest

/-! ### Other variables -/

/-- The options of `env`. -/
def environmentTable : Utility.OptionTable :=
  ⟨"iu:0vC:",
    [("ignore-environment", 'i'), ("null", '0'), ("unset", 'u'), ("chdir", 'C'), ("debug", 'v')]⟩

/-- The words of a text, which blanks separate unless they are quoted. -/
def splitWords : (quote : Option Char) → (current : Option (List Char)) → List Char → List String
  | _, none, [] => []
  | _, some cs, [] => [String.ofList cs.reverse]
  | some q, current, c :: rest =>
    if c = q then splitWords none (some (current.getD [])) rest
    else splitWords (some q) (some (c :: current.getD [])) rest
  | none, current, c :: rest =>
    if c = '"' || c = '\'' then splitWords (some c) (some (current.getD [])) rest
    else if c = ' ' || c = '\t' || c = '\n' then
      match current with
      | some cs => String.ofList cs.reverse :: splitWords none none rest
      | none => splitWords none none rest
    else splitWords none (some (c :: current.getD [])) rest

/-- Words whose first one may hold several. -/
def withSplitText (words : List String) : List String :=
  let split (text : String) : List String := splitWords none none text.toList
  match words with
  | word :: rest =>
    match word.toList with
    | ['-', 'S'] => split (rest.headD "") ++ rest.drop 1
    | '-' :: 'S' :: cs => split (String.ofList cs) ++ rest
    | cs =>
      let name := "--split-string="
      if word.startsWith name then split (String.ofList (cs.drop name.length)) ++ rest else words
  | [] => []

/-- A process with the variables that `env` is asked for. -/
def withSettings (p : Process) (isFresh : Bool) (dropped settings : List String) : Process :=
  let p := if isFresh then { p with bindings := [] } else p
  let p := dropped.foldl Process.dropVariable p
  settings.foldl (fun p setting =>
    let cs := setting.toList
    let name := String.ofList (cs.takeWhile (· != '='))
    p.putVariable ⟨name, some (String.ofList (cs.drop (name.length + 1))), true, false⟩) p

/-- Becomes a program with other variables, or shows the variables. -/
def stepEnvironment (m : Machine) (p : Process) (words : List String) (rest : List Task) :
    Machine :=
  m.withLeading p "env" environmentTable 125 (withSplitText words) rest fun call =>
    let isBare := call.operands.head? == some "-"
    let operands := if isBare then call.operands.drop 1 else call.operands
    let isSetting (word : String) : Bool := word.toList.contains '='
    let program := operands.dropWhile isSetting
    let p' := withSettings p (isBare || call.has 'i') (call.values 'u')
      (operands.takeWhile isSetting)
    if program.isEmpty then
      if call.has 'C' then m.misused p "env" "must specify command with --chdir (-C)" 125 rest
      else
        let lineEnd := if call.has '0' then "\x00" else "\n"
        let lines := p'.environment.map fun v => v.1 ++ "=" ++ v.2 ++ lineEnd
        m.finishOutcome p "env" (Utility.prints (m.siteOf p "env" none) (String.join lines)) rest
    else if call.has '0' then
      m.misused p "env" "cannot specify --null (-0) with command" 125 rest
    else
      let place : Except Fault Place :=
        match call.value? 'C' with
        | none => .ok p.cwd
        | some path =>
          match m.disk.locateNode p.cwd true (Utility.pathOf path) with
          | .ok (place, .directory) => .ok place
          | .ok _ => .error (.system .notDirectory)
          | .error fault => .error fault
      match place with
      | .error fault =>
        let err := labelOf p "env" ++ ": cannot change directory to "
          ++ Utility.quoted ((call.value? 'C').getD "") ++ ": " ++ Utility.wordsOf fault ++ "\n"
        m.finishCommand p "" err 125 rest
      | .ok cwd =>
        m.launch { p' with cwd := cwd } "env" (Utility.marked (program.headD "")) program rest

/-! ### Starting processes -/

/-- Starts a program in a process of its own. Gives the process, or the reason why there is no such
program. -/
def startProgram (m : Machine) (p : Process) (handles : Handles) (words : List String) :
    Except Fault (Machine × Nat) :=
  match m.findLaunched p words with
  | .error fault => .error fault
  | .ok _ =>
    let (m, pid) := m.fork p handles []
    match m.process? pid with
    | some child => .ok (m.become child none words, pid)
    | none => .ok (m, pid)

/-! ### Limited time -/

/-- A process and all that it has started, directly or not. -/
def family (m : Machine) (pid : Nat) : List Nat :=
  m.processes.foldl (fun pids q => if pids.contains q.parent then pids ++ [q.pid] else pids) [pid]

/-- Sends a signal to a process and all that it has started. -/
def sendFamily (m : Machine) (signal : Signal) (pid : Nat) : Machine :=
  (m.family pid).foldl (fun m pid => m.send signal pid) m

/-- The options of `timeout`. -/
def limitTable : Utility.OptionTable :=
  ⟨"k:s:vpf",
    [("kill-after", 'k'), ("signal", 's'), ("verbose", 'v'), ("preserve-status", 'p'),
      ("foreground", 'f')]⟩

/-- Starts a program and watches over it. -/
def stepLimited (m : Machine) (p : Process) (words : List String) (rest : List Task) : Machine :=
  let label := labelOf p "timeout"
  m.withLeading p "timeout" limitTable 125 words rest fun call =>
    let signal := ((call.value? 's').map Signal.ofName?).getD (some .terminate)
    let grace := (call.value? 'k').map fun text => (text, timeOf? text)
    let wrongTime (text : String) : Machine :=
      m.misused p "timeout" ("invalid time interval " ++ Utility.marked text) 125 rest
    match signal, grace, call.operands with
    | none, _, _ =>
      let text := Utility.marked ((call.value? 's').getD "") ++ ": invalid signal"
      m.misused p "timeout" text 125 rest
    | _, some (text, none), _ => wrongTime text
    | some signal, grace, time :: word :: words =>
      match timeOf? time with
      | none => wrongTime time
      | some time =>
        match m.startProgram p p.handles (word :: words) with
        | .error fault =>
          let err := label ++ ": failed to run command " ++ Utility.marked word ++ ": "
            ++ Utility.wordsOf fault ++ "\n"
          m.finishCommand p "" err (startStatus fault) rest
        | .ok (m, pid) =>
          let note := if call.has 'v' then some (" to command " ++ Utility.marked word) else none
          let watch : Watch :=
            { deadline := if time = 0 then none else some (m.clock + time), signal := signal,
              grace := grace.bind (·.2), isOver := false, keepsStatus := call.has 'p',
              note := note }
          m.continueWith p (.timed pid watch :: rest)
    | _, _, _ =>
      let err := "Try " ++ Utility.inQuotes (label ++ " --help") ++ " for more information.\n"
      m.finishCommand p "" err 125 rest

/-- The code of a program whose time was up. -/
def timeUpCode : Nat := 124

/-- Ends with the program that was watched, or sends it a signal when its time is up; none if there
is nothing to do yet. Killing it ends the watch too. -/
def stepTimed (m : Machine) (p : Process) (pid : Nat) (watch : Watch) (rest : List Task) :
    Option Machine :=
  match m.exitOf? pid, watch.deadline with
  | some (.code n), _ =>
    let m := m.reap [pid]
    some (m.succeedWith p (if watch.isOver && !watch.keepsStatus then timeUpCode else n) rest)
  | some (.signal s), _ =>
    let m := m.reap [pid]
    if watch.isOver then
      some (m.succeedWith p (if watch.keepsStatus then 128 + s.number else timeUpCode) rest)
    else some (m.finish p.pid (.signal s))
  | none, some time =>
    if m.clock < time then none
    else
      let said := watch.note.map fun note =>
        labelOf p "timeout" ++ ": sending signal " ++ watch.signal.scriptName ++ note ++ "\n"
      let m := (m.emit p 2 (Text.octetBytes (said.getD ""))).getD m
      let m := m.sendFamily watch.signal pid
      if watch.signal = Signal.kill then some (m.finish p.pid (.signal .kill))
      else
        let m := m.sendFamily .resume pid
        let watch : Watch :=
          { watch with
            deadline := watch.grace.map (m.clock + ·), signal := .kill, grace := none,
            isOver := true }
        some (m.continueWith p (.timed pid watch :: rest))
  | none, none => none

/-! ### Batches -/

/-- The status of a batch after a program that could not be started. -/
def batchRefused (m : Machine) (p : Process) (isStrict : Bool) (name : String) (fault : Fault)
    (failure : Nat) (steps : List BatchStep) (status : Nat) (rest : List Task) : Machine :=
  let label := p.arguments.headD ""
  let shown := if isStrict then Utility.nameText name else Utility.marked name
  let err := label ++ ": " ++ shown ++ ": " ++ Utility.wordsOf fault ++ "\n"
  if isStrict then m.finishCommand p "" err (startStatus fault) rest
  else
    m.finishCommand p "" err p.status
      (.batch isStrict steps (if failure = 0 then status else failure) :: rest)

/-- Makes the next step of a batch. -/
def stepBatch (m : Machine) (p : Process) (isStrict : Bool) (steps : List BatchStep)
    (status : Nat) (rest : List Task) : Machine :=
  match steps with
  | [] => m.succeedWith p status rest
  | .write descriptor text :: steps =>
    match m.emit p descriptor (Text.octetBytes text) with
    | some m => m.continueWith p (.batch isStrict steps status :: rest)
    | none => m.breakPipe p rest
  | .start words failure :: steps =>
    let handles := if isStrict then setHandle p.handles 0 (.device .null) else p.handles
    let name := words.headD ""
    match m.startProgram p handles words with
    | .error fault => m.batchRefused p isStrict name fault failure steps status rest
    | .ok (m, pid) => m.continueWith p (.batched isStrict name pid failure steps status :: rest)

/-- Goes on with a batch when a program of it has ended; none if it runs. -/
def stepBatched (m : Machine) (p : Process) (isStrict : Bool) (name : String) (pid failure : Nat)
    (steps : List BatchStep) (status : Nat) (rest : List Task) : Option Machine :=
  let stop (text : String) (code : Nat) : Machine :=
    m.finishCommand p "" (p.arguments.headD "" ++ ": " ++ name ++ ": " ++ text ++ "\n") code rest
  match isStrict, m.exitOf? pid with
  | _, none => none
  | false, some (.signal s) =>
    let err := p.arguments.headD "" ++ ": " ++ Utility.marked name ++ " terminated by signal "
      ++ toString s.number ++ "\n"
    let status := if failure = 0 then status else failure
    some ((m.reap [pid]).finishCommand p "" err p.status (.batch isStrict steps status :: rest))
  | true, some (.signal s) => some (stop ("terminated by signal " ++ toString s.number) 125)
  | true, some (.code 255) =>
    some (stop "exited with status 255; aborting" 124)
  | _, some ended =>
    let status := if ended.isSuccess || failure = 0 then status else failure
    some ((m.reap [pid]).continueWith p (.batch isStrict steps status :: rest))

/-! ### Finding entries and making words -/

/-- What becomes of a program that is to be run at once, in place of a process. -/
def trial (m : Machine) (p : Process) (disk : Disk) (cwd : Place) (words : List String) :
    Utility.Trial :=
  match { m with disk := disk }.findLaunched { p with cwd := cwd } words with
  | .error _ => .missing
  | .ok loaded =>
    match Utility.programs.lookup loaded.name with
    | none => .postponed
    | some program =>
      let site : Site :=
        ⟨disk, cwd, words.headD "", p.mask, p.environment, none, m.destinationOf p⟩
      match program.run site (loaded.words.drop 1) ⟨.none, true, none⟩ with
      | some o => .finished o
      | none => .postponed

/-- Walks through directories. -/
def stepFind (m : Machine) (p : Process) (words : List String) (rest : List Task) : Machine :=
  let (disk, steps, code) := Utility.find (m.siteOf p "find" none) (m.trial p) words
  let p := { p with cwd := m.disk.follow disk p.cwd }
  (m.withDisk disk).continueWith p (.batch false steps code :: rest)

/-- Hands words of the input to programs; none if the input is not there yet. -/
def stepXargs (m : Machine) (p : Process) (words : List String) (rest : List Task) :
    Option Machine :=
  let supply := m.supply p
  if supply.isWhole then
    let (steps, code) := Utility.xargs (m.siteOf p "xargs" none) words supply.source
    let (m, p) := m.use p supply.source.content.size
    some (m.continueWith p (.batch true steps code :: rest))
  else some (m.starve p ("xargs" :: words) rest)

end SnippetForge.Machine
