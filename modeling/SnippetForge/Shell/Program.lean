import SnippetForge.Disk.System
import SnippetForge.Machine.Control
import SnippetForge.Shell.Options

/-!
# Programs

What a path or a name means as a program, and how a process becomes that program. A program is one
that the system provides or a script, which is a file that names its interpreter in its first line.
The interpreter is then the program, and the script is one of its words.
-/

namespace SnippetForge.Machine

open Shell

/-! ### Finding programs -/

/-- The programs that run scripts. -/
def shells : List String :=
  ["sh", "dash", "bash"]

/-- A program of the system with the words it is started with. -/
structure Loaded where
  name : String
  words : List String
  deriving DecidableEq, Repr

/-- How many bytes of a file are looked at for an interpreter. -/
def headSize : Nat := 256

/-- Characters without blanks at the start and the end. -/
def stripBlanks (cs : List Char) : List Char :=
  let isGap (c : Char) : Bool := c == ' ' || c == '\t'
  ((cs.dropWhile isGap).reverse.dropWhile isGap).reverse

/-- The interpreter that the first line of a script names, and its argument. The name may be empty
in a file without any line end. -/
def interpreter? (content : ByteArray) : Option (String × List String) :=
  match (Text.octets (content.extract 0 headSize)).toList with
  | '#' :: '!' :: rest =>
    let hasEnd := rest.contains '\n'
    let line := stripBlanks (rest.takeWhile (· != '\n'))
    let isGap (c : Char) : Bool := c == ' ' || c == '\t'
    let name := line.takeWhile fun c => !isGap c
    let argument := (line.dropWhile fun c => !isGap c).dropWhile isGap
    if name.isEmpty && hasEnd then none
    else if !hasEnd && headSize ≤ content.size && argument.isEmpty then none
    else
      some (String.ofList name, if argument.isEmpty then [] else [String.ofList argument])
  | _ => none

/-- The program at a path with the words it is started with, or the reason why there is none that
can be started. `depth` bounds how many interpreters are scripts themselves. -/
def programAt (m : Machine) (cwd : Place) :
    (depth : Nat) → (path : String) → (words : List String) → Except Fault Loaded
  | depth, path, words =>
    match m.disk.locateEntry cwd true ⟨Text.decoded path⟩ with
    | .error fault => .error fault
    | .ok (_, ⟨.file content, _, mode, _⟩) =>
      if !mode.isExecutable then .error (.system .accessDenied)
      else
        match Disk.programName? content with
        | some name => .ok ⟨name, words⟩
        | none =>
          match interpreter? content, depth with
          | none, _ => .error (.system .notExecutable)
          | some ("", _), _ => .error (.system .accessDenied)
          | some _, 0 => .error (.system .tooManyLinks)
          | some (name, argument), depth + 1 =>
            m.programAt cwd depth name (name :: argument ++ path :: words.drop 1)
    | .ok _ => .error (.system .accessDenied)

/-- How many bytes a word or a variable of a program has at most, with its end. -/
def maxWordSize : Nat := 131072

/-- How many bytes all words and variables of a program have at most, with what tells where they
are. -/
def maxListSize : Nat := 2097152

/-- Whether some words and variables can be handed to a program. -/
def isHandable (words : List String) (environment : List (String × String)) : Bool :=
  let sizes := words.map (·.length + 1) ++ environment.map fun v => v.1.length + v.2.length + 2
  sizes.all (· ≤ maxWordSize)
    && sizes.foldl (· + · + 8) ((words.headD "").length + 1) ≤ maxListSize

/-- The program that was found for some words and variables, unless these are too large for it. -/
def withinLimits (words : List String) (environment : List (String × String))
    (found : Except Fault Loaded) : Except Fault Loaded :=
  match found with
  | .error (.system .notExecutable) | .ok _ =>
    if isHandable words environment then found else .error (.system .listTooLong)
  | .error _ => found

/-- How many interpreters may be scripts themselves. -/
def maxDepth : Nat := 5

/-- The items of a search path. -/
def searchItems (searchPath : String) : List String :=
  searchPath.splitOn ":"

/-- The path of a name in a directory, which is the current one if it is empty. -/
def inDirectory (directory name : String) : String :=
  if directory = "" then name else directory ++ "/" ++ name

/-- The first program of a name along a search path. What cannot be executed counts only if there is
nothing else. -/
def search? (m : Machine) (cwd : Place) (searchPath name : String) : Option String :=
  let paths := (searchItems searchPath).map (inDirectory · name)
  match paths.find? fun path => m.disk.isExecutable cwd ⟨Text.decoded path⟩ with
  | some path => some path
  | none => paths.find? fun path => m.disk.holds cwd ⟨Text.decoded path⟩

/-- The program that words start for a process. A text that may be executed and names no
interpreter is run by the shell. -/
def findProgram (m : Machine) (p : Process) (words : List String) : Except Fault Loaded :=
  let name := words.headD ""
  let at? (path : String) : Except Fault Loaded :=
    match withinLimits words p.environment (m.programAt p.cwd maxDepth path words) with
    | .error (.system .notExecutable) => .ok ⟨"sh", "/bin/sh" :: path :: words.drop 1⟩
    | result => result
  if name = "" then .error (.system .accessDenied)
  else if name.toList.contains '/' then at? name
  else
    match m.search? p.cwd p.searchPath name with
    | some path => at? path
    | none => .error (.system .noEntry)

/-! ### Words for faults -/

/-- The words for a fault, without its number. -/
def faultWords : Fault → String
  | .system e => e.words
  | fault => fault.message

/-- The words for a file that cannot be opened; `missing` are those for one that is not there. -/
def openWords (missing : String) : Fault → String
  | .system .noEntry => missing
  | .system .notDirectory => missing
  | fault => faultWords fault

/-- The status of a command whose program cannot be started. -/
def startStatus : Fault → Nat
  | .system .noEntry => 127
  | .system .notDirectory => 127
  | .system .nameTooLong => 127
  | .system .tooManyLinks => 127
  | _ => 126

/-! ### Becoming a program -/

/-- A process that has no script of its own yet. -/
def cleared (p : Process) : Process :=
  { p with
    functions := [], aliases := [], known := [], traps := [], onExit := none, pending := [],
    options := [], frame := none, label := none, line := 0, leader := p.pid, status := 0,
    outputStatus := 0, lastBackground := none, jobs := [], cursor := ⟨1, none⟩ }

/-- The path by which a process has come to its directory: the one that is handed on to it, if it
leads there. -/
def herePath (m : Machine) (p : Process) : String :=
  let physical := Text.encoded p.cwd.path.text
  match p.value? "PWD" with
  | some path =>
    match path.toList.head?, m.disk.canonical p.cwd ⟨Text.decoded path⟩ with
    | some '/', .ok place => if place = p.cwd then path else physical
    | _, _ => physical
  | none => physical

/-- The variables of a shell at its start: those that are handed on to it and its own. -/
def shellVariables (p : Process) (here : String) : List Variable :=
  let own : List Variable :=
    [⟨"IFS", some " \t\n", false, false⟩, ⟨"OPTIND", some "1", false, false⟩,
      ⟨"PATH", some p.searchPath, false, false⟩,
      ⟨"PPID", some (toString p.parent), false, false⟩, ⟨"PS1", some "# ", false, false⟩,
      ⟨"PS2", some "> ", false, false⟩, ⟨"PS4", some "+ ", false, false⟩,
      ⟨"PWD", some here, true, false⟩]
  let handed := p.bindings.filter fun v => v.isExported && isName v.name
  own.filter (fun v => ["IFS", "OPTIND", "PPID", "PWD"].contains v.name
      || !handed.any fun w => w.name == v.name)
    ++ handed.filter fun v => !(["IFS", "OPTIND", "PPID", "PWD"].contains v.name)

/-- A process that ends with a complaint. -/
def refusing (p : Process) (text : String) : Process :=
  { p with agenda := [.print 2 (Text.octetBytes (complaint p text)), .recall 2, .quit] }

/-- A process that runs a text from its start. It knows where a text ends that is no file, and so
which command is the last one. -/
def runningText (p : Process) (name text : String) (arguments : List String) (isFile : Bool) :
    Process :=
  { p with
    arguments := name :: arguments,
    agenda := scriptTask text isFile false :: if isFile then [] else [.quit] }

/-- A process that does what the words of a shell ask for. -/
def obeying (m : Machine) (p : Process) (name : String) (call : ShellCall) : Process :=
  if call.isCommand then
    match call.rest with
    | text :: name :: arguments => runningText p name text arguments false
    | texts => runningText p name (texts.headD "") [] false
  else if call.rest.isEmpty || call.letters.contains 's' then
    { p with
      arguments := name :: call.rest, options := withLetter p.options 's' true,
      agenda := [.utility ["sh"]] }
  else
    let path := call.rest.headD ""
    match m.disk.readBytes p.cwd ⟨Text.decoded path⟩ with
    | .ok bytes => runningText p path (Text.octets bytes) (call.rest.drop 1) true
    | .error (.system .isDirectory) => runningText p path "" (call.rest.drop 1) true
    | .error fault =>
      refusing p ("cannot open " ++ path ++ ": " ++ openWords "No such file" fault)

/-- A process that has become a shell with some words. -/
def runningShell (m : Machine) (p : Process) (words : List String) : Process :=
  let here := m.herePath p
  let name := words.headD "sh"
  let p := { p with arguments := [name], here := here, bindings := shellVariables p here }
  match ShellCall.ofWords (words.drop 1) with
  | .error text => refusing p text
  | .ok call =>
    let running :=
      m.obeying { p with options := withLetter call.letters 'm' false } name call
    if call.letters.contains 'm' then
      { running with
        agenda := .print 2 (Text.octetBytes (complaint p noTerminal)) :: running.agenda }
    else running

/-- A process that has become a program. -/
def load (m : Machine) (p : Process) (program : Loaded) : Process :=
  let p := cleared p
  if shells.contains program.name then m.runningShell p program.words
  else
    { p with
      arguments := program.words,
      agenda := [.utility (program.name :: program.words.drop 1), .quit] }

/-- Turns a process into another program, which gets the variables that are handed on. `label`
stands before a complaint. -/
def become (m : Machine) (p : Process) (label : Option String) (words : List String) : Machine :=
  let name := words.headD ""
  match m.findProgram p words with
  | .error fault =>
    let status := if name = "" then 127 else startStatus fault
    let text := name ++ ": " ++ openWords "not found" fault
    m.finishCommand p "" (complaintOf p label text) status [.quit]
  | .ok program =>
    m.putProcess (m.load { p with bindings := p.bindings.filter (·.isExported) } program)

end SnippetForge.Machine
