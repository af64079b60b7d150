import SnippetForge.Number.Binary
import SnippetForge.Shell.Builtin.Signals
import SnippetForge.Shell.Program
import SnippetForge.Shell.Utility.Table

/-!
# Running programs of the system

A program of the system that needs no more than its words, its input and the disk runs in one step,
as soon as enough of its input is there. What it has written is delivered piece by piece, as far as
there is room for it; a program whose output has nowhere to go says so at its end and fails.

A few programs work bit by bit: one that joins files hands on what it reads at once, one that repeats
a line stops when nobody takes it, and one that sleeps waits for a point in time.
-/

namespace SnippetForge.Machine

open Shell

/-! ### Output -/

/-- The words for why output of a process gets nowhere, if it does not. -/
def outputFault? (m : Machine) (p : Process) : Option String :=
  match handleOf p 1 with
  | none => some "Bad file descriptor"
  | some (.device .full) => some "No space left on device"
  | some (.writing id) =>
    if p.ignored.contains Signal.pipe && !m.hasReader id then some "Broken pipe" else none
  | some h => if m.isWritable h then none else some "Bad file descriptor"

/-- What a program says about output that gets nowhere, and its code. -/
def outputComplaint (program label words : String) : String × Nat :=
  let plain := label ++ ": write error: " ++ words ++ "\n"
  match program with
  | "cat" =>
    if words = "Bad file descriptor" then (label ++ ": standard output: " ++ words ++ "\n", 1)
    else (plain, 1)
  | "sort" =>
    (label ++ ": fflush failed: 'standard output': " ++ words ++ "\n" ++ label ++ ": write error\n",
      2)
  | "grep" => (plain, 2)
  | "sed" => (label ++ ": couldn't flush stdout: " ++ words ++ "\n", 4)
  | "awk" =>
    (Utility.lastName label ++ ": close failed on file \"/dev/stdout\" (" ++ words ++ ")\n", 2)
  | _ => (plain, 1)

/-- Writes as much as fits of what a program has written, and goes on when all is written; none if
nothing fits. A program whose output gets nowhere says so at its end. -/
def stepDeliver (m : Machine) (p : Process) (program : String)
    (pieces : List (Nat × ByteArray)) (start code : Nat) (rest : List Task) : Option Machine :=
  match pieces with
  | [] => some (m.succeedWith p code rest)
  | (descriptor, bytes) :: later =>
    match if descriptor = 1 then m.outputFault? p else none, handleOf p descriptor with
    | some words, _ =>
      let (err, code) := outputComplaint program (p.arguments.headD program) words
      let pieces := pieces.filter (fun piece => piece.1 != 1) ++ [(2, Text.octetBytes err)]
      some (m.continueWith p (.deliver program pieces 0 code :: rest))
    | none, none => some (m.continueWith p (.deliver program later 0 code :: rest))
    | none, some h =>
      let size := bytes.size - start
      let fitting := ((m.room? h).map (min size)).getD size
      if size = 0 then some (m.continueWith p (.deliver program later 0 code :: rest))
      else if !m.reaches h then some (m.breakPipe p rest)
      else if fitting = 0 then none
      else
        (m.write? h (bytes.extract start (start + fitting))).map fun m =>
          m.continueWith p (.deliver program pieces (start + fitting) code :: rest)

/-- Goes on after a program with what it has done. -/
def finishOutcome (m : Machine) (p : Process) (program : String) (o : Outcome)
    (rest : List Task) : Machine :=
  let p := { p with cwd := m.disk.follow o.disk p.cwd }
  let pieces := o.written.map fun piece => (piece.1, Text.octetBytes piece.2)
  (m.withDisk o.disk).continueWith p (.deliver program pieces 0 o.code :: rest)

/-! ### Plain programs -/

/-- Where the output of a process goes. -/
def destinationOf (m : Machine) (p : Process) : Destination :=
  match handleOf p 1 with
  | some (.file id) =>
    match m.file? id with
    | some f => .file f.node (if f.access = .appending then (m.contentOf f).size else f.offset)
    | none => .elsewhere
  | some (.device .null) => .nowhere
  | _ => .elsewhere

/-- What a program of a process is given besides its words and its input. -/
def siteOf (m : Machine) (p : Process) (program : String) (inputSize : Option Nat) : Site :=
  ⟨m.disk, p.cwd, p.arguments.headD program, p.mask, p.environment, inputSize,
    m.destinationOf p⟩

/-- The words of a program with a dash in the place of a named pipe, and the path of the pipe. -/
def pipeOperand? (m : Machine) (p : Process) : List String → Option (String × List String)
  | [] => none
  | word :: words =>
    if (m.namedPipe? p.cwd (Utility.pathOf word)).isSome then some (word, "-" :: words)
    else (pipeOperand? m p words).map fun found => (found.1, word :: found.2)

/-- The programs that may read a named pipe as if it were their input. -/
def pipeReaders : List String :=
  ["cat", "head", "tail", "sed", "grep", "sort", "uniq", "cut", "tac", "rev", "nl", "fold", "wc",
    "tee", "paste"]

/-- Goes on when there is more to read than a process has read. -/
def starve (m : Machine) (p : Process) (words : List String) (rest : List Task) : Machine :=
  let (m, p) := m.hold p
  m.continueWith p (.starved words :: rest)

/-- Runs a program that needs no more than its words, its input and the disk. One that needs more of
its input waits for that. -/
def stepPlain (m : Machine) (p : Process) (name : String) (program : Utility.Program)
    (words : List String) (rest : List Task) : Machine :=
  let pipe? := if pipeReaders.contains name then m.pipeOperand? p words else none
  match pipe? with
  | some (path, words) =>
    m.continueWith p (.redirect 0 .read path :: .utility (name :: words) :: rest)
  | none =>
    let reads := program.reads words
    let supply : Supply := if reads then m.supply p else ⟨.none, true, none⟩
    let site := m.siteOf p name supply.fileSize
    let size := supply.source.content.size
    match program.run site words supply with
    | some o =>
      let (m, p) := if reads then m.use p (o.taken.getD size) else (m, p)
      m.finishOutcome p name o rest
    | none => m.starve p (name :: words) rest

/-! ### Output without end -/

/-- Writes a text once more and goes on; none if nobody takes it. A program whose output is thrown
away goes on without end. -/
def stepRepeat (m : Machine) (p : Process) (program text : String) (rest : List Task) :
    Option Machine :=
  match m.outputFault? p, handleOf p 1 with
  | some words, _ =>
    let label := p.arguments.headD program
    let said :=
      if program = "cat" then (outputComplaint program label words).1
      else label ++ ": standard output: " ++ words ++ "\n"
    some (m.finishCommand p "" said 1 rest)
  | none, some h =>
    match h with
    | .writing id =>
      if m.hasReader id && m.room? h = some 0 then none
      else some (m.finishCommand p text "" 0 p.agenda)
    | _ => none
  | none, none => none

/-- Writes a line over and over. -/
def stepYes (m : Machine) (p : Process) (words : List String) (rest : List Task) :
    Option Machine :=
  let words := if words.head? = some "--" then words.drop 1 else words
  let line := (if words.isEmpty then "y" else " ".intercalate words) ++ "\n"
  m.stepRepeat p "yes" (String.join (List.replicate 1024 line)) rest

/-- Hands on what is there of the input. -/
def stepHandOn (m : Machine) (p : Process) (rest : List Task) : Option Machine :=
  let supply := m.supply p
  match supply.source, m.outputFault? p with
  | .zeros, _ => m.stepRepeat p "cat" (String.ofList (List.replicate 4096 (Char.ofNat 0))) rest
  | .bytes _, some words =>
    let (err, code) := outputComplaint "cat" (p.arguments.headD "cat") words
    some (m.finishCommand p "" err code rest)
  | .bytes bytes, none =>
    if bytes.isEmpty then if supply.isWhole then some (m.succeedWith p 0 rest) else none
    else
      let room := (((handleOf p 1).bind m.room?).map (min bytes.size)).getD bytes.size
      match m.emit p 1 (bytes.extract 0 room) with
      | some m =>
        let (m, p) := m.use p room
        if room = 0 then none else some (m.continueWith p p.agenda)
      | none => some (m.breakPipe p rest)

/-! ### Time -/

/-- The nanoseconds of a second. -/
def nanosPerSecond : Nat := 1000000000

/-- The seconds that count as forever. -/
def foreverSeconds : Nat := 1000000000000000000

/-- The seconds of a unit of time. -/
def unitSeconds? : List Char → Option Nat
  | [] => some 1
  | ['s'] => some 1
  | ['m'] => some 60
  | ['h'] => some 3600
  | ['d'] => some 86400
  | _ => none

/-- The nanoseconds that a word means: a number of seconds, minutes, hours or days. -/
def timeOf? (word : String) : Option Nat :=
  match Binary.read word.toList with
  | none => none
  | some scanned =>
    (unitSeconds? scanned.rest).bind fun unit =>
      match scanned.value with
      | .infinite false => some (foreverSeconds * nanosPerSecond)
      | value =>
        match value.signedRatio? with
        | some (num, den) =>
          if num < 0 then none
          else
            let nanos := Binary.roundDiv (num.toNat * unit * nanosPerSecond) den
            some (min nanos (foreverSeconds * nanosPerSecond))
        | none => none

/-- A failure of a program that is used in a wrong way. -/
def misuseText (label text : String) : String :=
  label ++ ": " ++ text ++ "\nTry " ++ Utility.inQuotes (label ++ " --help")
    ++ " for more information.\n"

/-- Waits as long as some words say in sum. -/
def stepSleep (m : Machine) (p : Process) (words : List String) (rest : List Task) : Machine :=
  let label := p.arguments.headD "sleep"
  match Utility.Call.read .empty words with
  | .error flaw => m.finishCommand p "" (misuseText label flaw.words) 1 rest
  | .ok call =>
    let wrong := call.operands.filter fun w => (timeOf? w).isNone
    if call.operands.isEmpty then
      m.finishCommand p "" (misuseText label "missing operand") 1 rest
    else if wrong.isEmpty then
      let time := (call.operands.filterMap timeOf?).foldl (fun sum time => sum + time) 0
      m.succeedWith p 0 (.sleepUntil (m.clock + time) :: rest)
    else
      let texts := wrong.map fun w => "invalid time interval " ++ Utility.marked w
      m.finishCommand p "" (misuseText label (("\n" ++ label ++ ": ").intercalate texts)) 1 rest

/-! ### Signals -/

/-- Sends signals as a program of its own. -/
def stepKill (m : Machine) (p : Process) (words : List String) (rest : List Task) : Machine :=
  let label := p.arguments.headD "kill"
  match Builtin.killOptions words with
  | .error _ => m.finishCommand p "" (label ++ ": bad usage\n") 1 rest
  | .ok call =>
    let signal := call.signal.getD .terminate
    let step (s : Machine × String) (word : String) : Machine × String :=
      match Text.natural? word with
      | some pid =>
        if pid = outside || s.1.isKnown pid then (s.1.send signal pid, s.2)
        else (s.1, s.2 ++ label ++ ": (" ++ word ++ "): No such process\n")
      | none => (s.1, s.2 ++ label ++ ": failed to parse argument: " ++ Utility.inQuotes word ++ "\n")
    let (m, err) := call.targets.foldl step (m, "")
    if m.isAlive p.pid then m.finishCommand p "" err (if err = "" then 0 else 1) rest else m

end SnippetForge.Machine
