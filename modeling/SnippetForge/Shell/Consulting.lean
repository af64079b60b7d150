import SnippetForge.Shell.Execution
import SnippetForge.Shell.Redirection

/-!
# Programs that ask for commands

A program for records may need commands to be run. It is run from its start until it asks for one;
what it has written up to there is delivered, and the command runs in a process of its own. When the
command has ended the program is run again with one more answer, and comes as far as the next request
or its end. All of the input has to be there before the first command runs.
-/

namespace SnippetForge.Machine

open Shell

/-- Goes on with a program for records as far as its answers lead. -/
def advance (m : Machine) (p : Process) (c : Consultation) (rest : List Task) : Machine :=
  let supply := m.supply p
  let site := { m.siteOf p "awk" supply.fileSize with disk := c.start }
  match Awk.progress site c.words supply c.answers with
  | .ended o =>
    let (m, p) := m.use p (o.taken.getD 0)
    m.finishOutcome p "awk" { o with written := o.written.drop c.delivered } rest
  | .asking written disk r =>
    if !supply.isWhole then m.starve p ("awk" :: c.words) rest
    else
      let (m, p) := m.hold p
      let p := { p with cwd := m.disk.follow disk p.cwd }
      let pieces := (written.drop c.delivered).map fun piece => (piece.1, Text.octetBytes piece.2)
      (m.withDisk disk).continueWith p
        (.deliver "awk" pieces 0 0 :: .consult { c with delivered := written.length } r :: rest)
  | .starved => m.starve p ("awk" :: c.words) rest

/-- Runs a program for records. -/
def stepRecords (m : Machine) (p : Process) (words : List String) (rest : List Task) : Machine :=
  m.advance p ⟨words, m.disk, [], 0⟩ rest

/-- The words that run a command. One that only writes to the same output is run by a shell that is
found by its name. -/
def commandWords : CommandRequest → List String
  | .run command => ["sh", "-c", command]
  | .read command => ["/bin/sh", "-c", command]
  | .write command _ => ["/bin/sh", "-c", command]

/-- Starts a command that a program has asked for. -/
def stepConsult (m : Machine) (p : Process) (c : Consultation) (r : CommandRequest)
    (rest : List Task) : Machine :=
  let launch (m : Machine) (own handles : Handles) (pipe : Option PipeId) : Machine :=
    let (m, pid) := m.fork { p with held := ByteArray.empty } handles [.quit]
    let m := m.continueWith { p with handles := own } (.consulted c pid pipe :: rest)
    match m.process? pid with
    | some child => m.become child none (commandWords r)
    | none => m
  match r with
  | .run _ => launch m p.handles p.handles none
  | .write _ text =>
    let (m, id) := m.newContent (Text.octetBytes text)
    launch m p.handles (setHandle p.handles 0 (.reading id)) none
  | .read _ =>
    let (m, pipe) := m.newPipe false false
    let own := setHandle p.handles (hiddenDescriptor pipe) (.reading pipe)
    launch m own (setHandle p.handles 1 (.writing pipe)) (some pipe)

/-- The number by which a program sees how a command has ended. -/
def answerStatus : ExitStatus → Nat
  | .code n => n
  | .signal s => 256 + s.number

/-- Goes on with a program when a command that it has asked for has ended; none if it runs. -/
def stepConsulted (m : Machine) (p : Process) (c : Consultation) (pid : Nat)
    (pipe : Option PipeId) (rest : List Task) : Option Machine :=
  match m.exitOf? pid with
  | none => none
  | some ended =>
    let text := ((pipe.map m.buffered).map Text.octets).getD ""
    if !(pipe.map m.isDrained).getD true then none
    else
      let hidden := pipe.map hiddenDescriptor
      let p := { p with handles := p.handles.filter fun e => some e.1 != hidden }
      let m := (m.markReaped p.pid).reap [pid]
      let m := (pipe.map m.dropPipe).getD m
      let answer : CommandAnswer := ⟨text, answerStatus ended, m.disk⟩
      some (m.advance p { c with answers := c.answers ++ [answer] } rest)

end SnippetForge.Machine
