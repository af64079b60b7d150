import SnippetForge.Machine.Control
import SnippetForge.Shell.Builtin.Reply

/-!
# Commands for jobs

What a script knows about the processes that it has started in the background.
-/

namespace SnippetForge.Shell.Builtin

/-- The word for the state of a process. -/
def stateText (m : Machine) (pid : Nat) : String :=
  match m.exitOf? pid with
  | some (.code 0) => "Done"
  | some (.code n) => "Done(" ++ toString n ++ ")"
  | some (.signal s) => s.description
  | none => "Running"

/-- How wide the state of a job is shown. -/
def jobWidth : Nat := 33

/-- The line about a job. `mark` tells the last job and the one before it from others. -/
def jobLine (m : Machine) (showsPid : Bool) (mark : Char) (job : BackgroundJob) : String :=
  let text := "[" ++ toString job.number ++ "] " ++ String.singleton mark ++ " "
    ++ (if showsPid then toString job.pid ++ " " else "") ++ stateText m job.pid
  text ++ String.ofList (List.replicate (max 1 (jobWidth - text.length)) ' ') ++ "\n"

/-- The lines about jobs, the last one first. `passed` tells how many before them still run. One that
has ended is forgotten as soon as it is shown. -/
def jobLines (m : Machine) (showsPid : Bool) : (passed : Nat) → List BackgroundJob → List String
  | _, [] => []
  | passed, job :: rest =>
    let mark := match passed with
      | 0 => '+'
      | 1 => '-'
      | _ => ' '
    jobLine m showsPid mark job
      :: jobLines m showsPid (if m.isAlive job.pid then passed + 1 else passed) rest

/-- Shows the jobs, and forgets those that have ended. -/
def jobs (m : Machine) (p : Process) (words : List String) : Reply :=
  match optionsOf "lp" words with
  | .error text => .error p text
  | .ok (options, _) =>
    if options.any fun o => o.1 == 'p' then
      .print p (String.join (p.jobs.map fun job => toString job.pid ++ "\n"))
    else
      .print { p with jobs := p.jobs.filter fun job => m.isAlive job.pid }
        (String.join (jobLines m (!options.isEmpty) 0 p.jobs))

/-- The process that a word of `wait` means, or a complaint. -/
def awaited (p : Process) (word : String) : Except String Nat :=
  match word.toList with
  | '%' :: job =>
    match (Text.natural? (String.ofList job)).bind (Machine.job? p) with
    | some job => .ok job.pid
    | none => .error ("No such job: " ++ word)
  | _ => naturalWord word

/-- What the words of `wait` mean: the processes, or a complaint. -/
def awaitedAll (p : Process) (words : List String) : Except String (List Nat) := do
  let (_, words) ← optionsOf "" words
  words.mapM (awaited p)

/-- Shows a limit of the system; none is set. -/
def limits (p : Process) (words : List String) : Reply :=
  match optionsOf "HSatfdscmlpnvwr" words with
  | .error text => .error p text
  | .ok _ => .print p "unlimited\n"

/-- Shows the time that has been used, which is not counted. -/
def times (p : Process) : Reply :=
  let line := "0m0.000000s 0m0.000000s\n"
  .print p (line ++ line)

end SnippetForge.Shell.Builtin
