import SnippetForge.Shell.Builtin.Reply
import SnippetForge.Shell.Program
import SnippetForge.Shell.Test

/-!
# Commands for places and names

Changing the current directory, saying where it is and what a command word means, and testing
properties of files.
-/

namespace SnippetForge.Shell.Builtin

/-! ### Directories -/

/-- The path that a path means seen from another one, without `.`, `..` and empty segments. -/
def logicalPath (here path : String) : String :=
  let segments := (path.toList.splitOn '/').map String.ofList
  let start := if path.toList.head? = some '/' then []
    else ((here.toList.splitOn '/').map String.ofList).filter (· != "")
  let names := segments.foldl (fun names segment =>
    if segment = "" || segment = "." then names
    else if segment = ".." then names.dropLast
    else names ++ [segment]) start
  "/" ++ "/".intercalate names

/-- Goes to a directory, if that can be done. -/
def goTo? (m : Machine) (p : Process) (isPhysical : Bool) (path : String) : Option Process :=
  let target := if isPhysical then path else logicalPath p.here path
  match m.disk.locateNode p.cwd true ⟨Text.decoded target⟩ with
  | .ok (place, .directory) =>
    let here := if isPhysical then Text.encoded place.path.text else target
    let p := (p.setValue "OLDPWD" p.here).exportVariable "OLDPWD"
    let p := (p.setValue "PWD" here).exportVariable "PWD"
    some { p with cwd := place, here := here }
  | _ => none

/-- Whether a path is not looked for along a list of directories. -/
def isDirect (path : String) : Bool :=
  match path.splitOn "/" with
  | first :: _ => first = "" || first = "." || first = ".."
  | [] => true

/-- Changes the current directory. -/
def cd (m : Machine) (p : Process) (words : List String) : Reply :=
  match optionsOf "LP" words with
  | .error text => .error p text
  | .ok (options, names) =>
    let isPhysical := (options.getLast?).any fun o => o.1 == 'P'
    let goesBack := names.head? == some "-"
    let named := names.headD ((p.value? "HOME").getD "")
    let path := if goesBack then (p.value? "OLDPWD").getD "" else named
    let path := if path = "" then "." else path
    let listed : Option Process :=
      if isDirect path then none
      else
        (Machine.searchItems ((p.value? "CDPATH").getD "")).findSome? fun item =>
          if item = "" then none else goTo? m p isPhysical (item ++ "/" ++ path)
    match listed, goTo? m p isPhysical path with
    | some p, _ => .print p (p.here ++ "\n")
    | none, some p => .print p (if goesBack then p.here ++ "\n" else "")
    | none, none => .error p ("can't cd to " ++ path)

/-- Shows the current directory. -/
def pwd (p : Process) (words : List String) : Reply :=
  match optionsOf "LP" words with
  | .error text => .error p text
  | .ok (options, _) =>
    let isPhysical := (options.getLast?).any fun o => o.1 == 'P'
    .print p ((if isPhysical then Text.encoded p.cwd.path.text else p.here) ++ "\n")

/-! ### Meanings of command words -/

/-- Commands that the shell runs in place. -/
def names : List String :=
  [".", ":", "[", "alias", "bg", "break", "cd", "chdir", "command", "continue", "echo", "eval",
    "exec", "exit", "export", "false", "fg", "getopts", "hash", "jobs", "kill", "local", "printf",
    "pwd", "read", "readonly", "return", "set", "shift", "test", "times", "trap", "true", "type",
    "ulimit", "umask", "unalias", "unset", "wait"]

/-- The path of the program that a command word means. A word that is a path means what it leads to,
whether that can run or not. -/
def programPath? (m : Machine) (p : Process) (name : String) : Option String :=
  if name.toList.contains '/' then
    if m.disk.holds p.cwd ⟨Text.decoded name⟩ then some name else none
  else
    (m.search? p.cwd p.searchPath name).filter fun path =>
      m.disk.isExecutable p.cwd ⟨Text.decoded path⟩

/-- What a command word means, in a sentence or as a word that can be used. None if it means
nothing. -/
def meaning? (m : Machine) (p : Process) (isSentence : Bool) (name : String) : Option String :=
  let either (sentence word : String) : Option String :=
    some (if isSentence then name ++ sentence else word)
  if reservedWords.contains name then either " is a shell keyword" name
  else
    match p.aliases.lookup name with
    | some text =>
      either (" is an alias for " ++ text) ("alias " ++ name ++ "=" ++ quoteText text)
    | none =>
      if specialBuiltins.contains name then either " is a special shell builtin" name
      else if (p.functions.lookup name).isSome then either " is a shell function" name
      else if names.contains name then either " is a shell builtin" name
      else
        match programPath? m p name with
        | some path =>
          either ((if p.known.contains name then " is a tracked alias for " else " is ") ++ path) path
        | none => none

/-- Remembers a program that has been looked up. -/
def remember (p : Process) (name : String) : Process :=
  if name.toList.contains '/' || names.contains name || p.known.contains name then p
  else { p with known := p.known ++ [name] }

/-- Says what a command word means. -/
def describe (m : Machine) (isSentence : Bool) (r : Reply) (name : String) : Reply :=
  match meaning? m r.process isSentence name with
  | some text =>
    let p := if (programPath? m r.process name).isSome then remember r.process name else r.process
    { r with process := p, out := r.out ++ text ++ "\n" }
  | none =>
    { r with
      out := if isSentence then r.out ++ name ++ ": not found\n" else r.out, status := 127 }

/-- Says what command words mean. -/
def type (m : Machine) (p : Process) (words : List String) : Reply :=
  words.foldl (describe m true) (.done p)

/-- How many rows the names of programs are kept in that have been looked up. -/
def knownRows : Nat := 31

/-- Shows the programs that have been looked up, forgets them, or looks some up. -/
def hash (m : Machine) (p : Process) (words : List String) : Reply :=
  match optionsOf "r" words with
  | .error text => .error p text
  | .ok (_ :: _, _) => .done { p with known := [] }
  | .ok ([], []) =>
    let key (name : String) : Nat := Process.nameKey knownRows name
    let sorted := p.known.mergeSort fun a b => key a ≤ key b
    .print p (String.join (sorted.filterMap fun name =>
      (programPath? m p name).map fun path => path ++ "\n"))
  | .ok ([], names) =>
    names.foldl (fun r name =>
      if (meaning? m r.process false name).isSome then
        { r with process := remember r.process name }
      else { r with complaints := r.complaints ++ [name ++ ": not found"], status := 1 })
      (.done p)

/-! ### Tests -/

/-- Decides a test. -/
def test (m : Machine) (p : Process) (words : List String) : Reply :=
  match Test.evaluate m.disk p.cwd words with
  | .ok holds => .ofStatus p (if holds then 0 else 1)
  | .error flaw => .error p flaw.words

end SnippetForge.Shell.Builtin
