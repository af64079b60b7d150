import SnippetForge.Text.Digits

/-!
# Signals and exit statuses

A signal is a number with a short name and a description. A process ends with an exit code or by a
signal.
-/

namespace SnippetForge

/-- A signal, by its number. -/
structure Signal where
  number : Nat
  deriving DecidableEq, Repr

namespace Signal

/-- The short names and the descriptions of the signals, from number one on. -/
def table : List (String × String) :=
  [("HUP", "Hangup"), ("INT", "Interrupt"), ("QUIT", "Quit"), ("ILL", "Illegal instruction"),
    ("TRAP", "Trace/breakpoint trap"), ("ABRT", "Aborted"), ("BUS", "Bus error"),
    ("FPE", "Floating point exception"), ("KILL", "Killed"), ("USR1", "User defined signal 1"),
    ("SEGV", "Segmentation fault"), ("USR2", "User defined signal 2"), ("PIPE", "Broken pipe"),
    ("ALRM", "Alarm clock"), ("TERM", "Terminated"), ("STKFLT", "Stack fault"),
    ("CHLD", "Child exited"), ("CONT", "Continued"), ("STOP", "Stopped (signal)"),
    ("TSTP", "Stopped"), ("TTIN", "Stopped (tty input)"), ("TTOU", "Stopped (tty output)"),
    ("URG", "Urgent I/O condition"), ("XCPU", "CPU time limit exceeded"),
    ("XFSZ", "File size limit exceeded"), ("VTALRM", "Virtual timer expired"),
    ("PROF", "Profiling timer expired"), ("WINCH", "Window changed"), ("IO", "I/O possible"),
    ("PWR", "Power failure"), ("SYS", "Bad system call")]

/-- The number of the first real-time signal. -/
def firstRealTime : Nat := 34

/-- The number of the last signal. -/
def lastNumber : Nat := 64

/-- The short name of a signal. -/
def name? (s : Signal) : Option String :=
  (table[s.number - 1]?).map (·.1)

/-- The description of a signal. -/
def description (s : Signal) : String :=
  match table[s.number - 1]? with
  | some e => e.2
  | none =>
    if s.number < firstRealTime then "Unknown signal " ++ toString s.number
    else "Real-time signal " ++ toString (s.number - firstRealTime)

/-- The name that scripts use for a signal; the number zero stands for their end. -/
def scriptName (s : Signal) : String :=
  if s.number = 0 then "EXIT"
  else if s.number = firstRealTime then "RTMIN"
  else if s.number = lastNumber then "RTMAX"
  else if firstRealTime < s.number && s.number < 50 then
    "RTMIN+" ++ toString (s.number - firstRealTime)
  else if 50 ≤ s.number then "RTMAX-" ++ toString (lastNumber - s.number)
  else if s.number = 16 then "16"
  else (s.name?).getD (toString s.number)

/-- The signal that the outside gives when it gives up on a process. -/
def kill : Signal := ⟨9⟩

/-- The signal that interrupts a process. -/
def interrupt : Signal := ⟨2⟩

/-- The signal of a process that writes to a pipe without readers. -/
def pipe : Signal := ⟨13⟩

/-- The signal that asks a process to end. -/
def terminate : Signal := ⟨15⟩

/-- The signal that lets a stopped process go on. -/
def resume : Signal := ⟨18⟩

/-- The signal that cannot be caught and stops a process. -/
def stop : Signal := ⟨19⟩

/-- Whether a signal stops a process that does not handle it. -/
def stops (s : Signal) : Bool :=
  [19, 20, 21, 22].contains s.number

/-- Whether a signal does nothing to a process that does not handle it. -/
def isHarmless (s : Signal) : Bool :=
  [0, 17, 18, 23, 28].contains s.number

/-- Whether a process may handle or ignore a signal. -/
def isCatchable (s : Signal) : Bool :=
  s != kill && s != stop

/-- The signal that scripts mean by a number. -/
def ofNumber? (s : String) : Option Signal :=
  (Text.natural? s).bind fun n => if n ≤ lastNumber then some ⟨n⟩ else none

/-- The signal that scripts mean by a name or number, the number zero only if `orEnd`. -/
def ofScriptName? (orEnd : Bool) (s : String) : Option Signal :=
  match Text.natural? s with
  | some _ => ofNumber? s
  | none =>
    let numbers := (List.range (lastNumber + 1)).drop (if orEnd then 0 else 1)
    (numbers.find? fun n => (scriptName ⟨n⟩).toUpper == s.toUpper).map Signal.mk

/-- The signal that programs mean by a name, which may start with `SIG`, or a number. -/
def ofName? (s : String) : Option Signal :=
  let name := s.toUpper
  let name := if name.startsWith "SIG" then String.ofList (name.toList.drop 3) else name
  ofScriptName? true name

end Signal

/-- How a process ended. -/
inductive ExitStatus
  | code (n : Nat)
  | signal (s : Signal)
  deriving DecidableEq, Repr

namespace ExitStatus

/-- Whether a process ended well. -/
def isSuccess : ExitStatus → Bool
  | .code 0 => true
  | _ => false

/-- The text of a status. -/
def text : ExitStatus → String
  | .code n => "exit status: " ++ toString n
  | .signal s =>
    match s.name? with
    | some name => "signal: " ++ toString s.number ++ " (SIG" ++ name ++ ")"
    | none => "signal: " ++ toString s.number

/-- The status as a shell sees it. -/
def toNat : ExitStatus → Nat
  | .code n => n
  | .signal s => 128 + s.number

end ExitStatus

end SnippetForge
