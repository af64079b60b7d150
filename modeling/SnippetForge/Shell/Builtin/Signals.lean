import SnippetForge.Machine.Control
import SnippetForge.Shell.Builtin.Reply

/-!
# Commands for signals

Sending signals to processes, and saying what a script does when one comes or when it ends.
-/

namespace SnippetForge.Shell.Builtin

/-! ### Sending -/

/-- How `kill` is to be used. -/
def killUsage : String :=
  "Usage: kill [-s sigspec | -signum | -sigspec] [pid | job]... or\nkill -l [exitstatus]"

/-- What the words of `kill` ask for. -/
structure KillCall where
  signal : Option Signal
  isListing : Bool
  targets : List String

/-- Reads the options of `kill`, or complains. -/
def killOptions (words : List String) : Except String KillCall :=
  match words with
  | [] => .error killUsage
  | word :: rest =>
    match word.toList with
    | '-' :: name =>
      match Signal.ofScriptName? false (String.ofList name) with
      | some signal => .ok ⟨some signal, false, rest⟩
      | none => do
        let (options, targets) ← optionsOf "ls:" words
        let call ← options.foldlM (fun (call : KillCall) o =>
          if o.1 = 'l' then return { call with isListing := true }
          else
            match Signal.ofScriptName? false o.2 with
            | some signal => return { call with signal := some signal }
            | none => throw ("invalid signal number or name: " ++ o.2)) ⟨none, false, targets⟩
        return call
    | _ => .ok ⟨none, false, words⟩

/-- The names of the signals, or the name of one. -/
def killListing (targets : List String) : Except String String :=
  match targets with
  | [] =>
    .ok ("0\n" ++ String.join ((List.range Signal.lastNumber).map fun n =>
      (Signal.mk (n + 1)).scriptName ++ "\n"))
  | word :: _ => do
    let n ← naturalWord word
    let number := if 128 < n then n - 128 else n
    if 0 < number && number ≤ Signal.lastNumber then return (Signal.mk number).scriptName ++ "\n"
    else throw ("invalid signal number or exit status: " ++ word)

/-- The process that a word means; none if there is none. -/
def targetOf (p : Process) (word : String) : Except String (Option Nat) :=
  match word.toList with
  | '%' :: job =>
    match (Text.natural? (String.ofList job)).bind (Machine.job? p) with
    | some _ => .ok none
    | none => .error ("No such job: " ++ word)
  | '-' :: digits => (naturalWord (String.ofList digits)).map fun _ => none
  | _ => (naturalWord word).map some

/-- Sends a signal to the processes that words mean. -/
def sendAll (signal : Signal) (p : Process) : List String → Machine × Reply → Machine × Reply
  | [], state => state
  | word :: rest, (m, r) =>
    match targetOf p word with
    | .error text => (m, { r with complaints := r.complaints ++ [text], status := 2 })
    | .ok target =>
      if target.any fun pid => pid == Machine.outside || m.isKnown pid then sendAll signal p rest (m.send signal (target.getD 0), r)
      else
        sendAll signal p rest
          (m, { r with complaints := r.complaints ++ ["No such process\n"], status := 1 })

/-- Sends signals or lists them. -/
def kill (m : Machine) (p : Process) (words : List String) : Machine × Reply :=
  match killOptions words with
  | .error text => (m, .error p text)
  | .ok call =>
    if call.isListing then
      if call.signal.isSome then (m, .error p killUsage)
      else
        match killListing call.targets with
        | .ok out => (m, .print p out)
        | .error text => (m, .error p text)
    else if call.targets.isEmpty then (m, .error p killUsage)
    else sendAll (call.signal.getD .terminate) p call.targets (m, .done p)

/-! ### Traps -/

/-- What is shown of a trap. -/
def trapText (signal : Signal) (action : String) : String :=
  "trap -- " ++ quoteText action ++ " " ++ signal.scriptName ++ "\n"

/-- All traps, by the numbers of their signals. -/
def trapListing (p : Process) : String :=
  let sorted := p.traps.mergeSort fun a b => a.1.number ≤ b.1.number
  (p.onExit.map (trapText ⟨0⟩)).getD "" ++ String.join (sorted.map fun t => trapText t.1 t.2)

/-- Sets what a process does on one signal, or at its end. -/
def setTrap (p : Process) (action : Option String) (signal : Signal) : Process :=
  if signal.number = 0 then { p with onExit := action }
  else
    let traps := p.traps.filter fun t => t.1 != signal
    let ignored := p.ignored.filter (· != signal)
    match action with
    | none => { p with traps := traps, ignored := ignored }
    | some action =>
      { p with
        traps := (signal, action) :: traps,
        ignored := if action = "" then signal :: ignored else ignored }

/-- Sets what a process does on signals; a name that means none ends that. -/
def setTraps (action : Option String) : List String → Process → Reply
  | [], p => .done p
  | name :: names, p =>
    match Signal.ofScriptName? true name with
    | some signal => setTraps action names (setTrap p action signal)
    | none => { Reply.done p with notes := "trap: " ++ name ++ ": bad trap\n", status := 1 }

/-- Shows or sets what a process does on signals. -/
def trap (p : Process) (words : List String) : Reply :=
  match optionsOf "" words with
  | .error text => .error p text
  | .ok (_, []) => .print p (trapListing p)
  | .ok (_, [name]) => setTraps none [name] p
  | .ok (_, action :: names) =>
    if (Signal.ofNumber? action).isSome then setTraps none (action :: names) p
    else setTraps (if action = "-" then none else some action) names p

end SnippetForge.Shell.Builtin
