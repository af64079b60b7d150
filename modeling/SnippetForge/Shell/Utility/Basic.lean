import SnippetForge.Disk.Edit
import SnippetForge.Machine.Input
import SnippetForge.Shell.Utility.Names

/-!
# System programs

The programs that a system provides to scripts are functions. A program is given its words, what it
reads and the disk, and gives the changed disk, what it writes and its exit code. Nothing comes of a
program whose input is not there yet; most programs need all of it, a few end early.

The words and the texts of a program are strings of octets.
-/

namespace SnippetForge.Shell

/-- Where the output of a program goes, if that makes a difference to the program. -/
inductive Destination
  /-- A file by its number on the disk, and where in it the next byte goes. -/
  | file (id offset : Nat)
  /-- Nowhere: what is written is thrown away. -/
  | nowhere
  | elsewhere
  deriving DecidableEq, Repr

/-- What a program is given besides its words and its input. -/
structure Site where
  disk : Disk
  cwd : Place
  /-- The name by which the program was started. -/
  label : String
  /-- The bits that new files do not get. -/
  mask : Mode
  /-- The variables that are handed on to the program. -/
  environment : List (String × String)
  /-- How large the file is that the input is, if it is one. -/
  inputSize : Option Nat
  output : Destination

namespace Site

/-- Where in a file the output goes on, if it goes to the file that a path names. -/
def outputOffset? (site : Site) (path : Path) : Option Nat :=
  match site.output, site.disk.targetEntry? site.cwd path with
  | .file id offset, some entry => if entry.id = id then some offset else none
  | _, _ => none

/-- The mode of a new file. -/
def fileMode (site : Site) : Mode :=
  Mode.shared.without site.mask

/-- The mode of a new directory. -/
def directoryMode (site : Site) : Mode :=
  Mode.unrestricted.without site.mask

end Site

/-- What a program did. -/
structure Outcome where
  disk : Disk
  /-- What it has written to its descriptors, in order. -/
  written : List (Nat × String)
  code : Nat
  /-- How many bytes of its input it has taken, if not all of them. -/
  taken : Option Nat

namespace Outcome

/-- A program that has done nothing. -/
def nothing (site : Site) : Outcome :=
  ⟨site.disk, [], 0, none⟩

/-- A program that also writes something. -/
def write (o : Outcome) (text : String) : Outcome :=
  if text = "" then o else { o with written := o.written ++ [(1, text)] }

/-- A program that also complains, which makes its code at least as large as the given one. -/
def note (o : Outcome) (text : String) (code : Nat) : Outcome :=
  { o with written := o.written ++ [(2, text)], code := max o.code code }

/-- A program that goes on with another disk. -/
def onDisk (o : Outcome) (disk : Disk) : Outcome :=
  { o with disk := disk }

end Outcome

namespace Utility

/-! ### Outcomes -/

/-- A program that only writes. -/
def prints (site : Site) (out : String) : Outcome :=
  (Outcome.nothing site).write out

/-- A program that does nothing but give a code. -/
def ends (site : Site) (code : Nat) : Outcome :=
  { Outcome.nothing site with code := code }

/-- A message of a program. -/
def message (site : Site) (text : String) : String :=
  site.label ++ ": " ++ text ++ "\n"

/-- A program that fails with a message. -/
def fails (site : Site) (text : String) (code : Nat) : Outcome :=
  (Outcome.nothing site).note (message site text) code

/-- The words for a fault, without its number. -/
def wordsOf : Fault → String
  | .system e => e.words
  | fault => fault.message

/-- The words that point to the help of a program. -/
def helpHint (site : Site) : String :=
  "Try " ++ inQuotes (site.label ++ " --help") ++ " for more information."

/-- A failure that points to the help of a program. -/
def misuse (site : Site) (text : String) (code : Nat) : Outcome :=
  (Outcome.nothing site).note (message site text ++ helpHint site ++ "\n") code

/-- Runs a step on every name, one after the other. -/
def forEach (site : Site) (step : Outcome → String → Outcome) (names : List String) : Outcome :=
  names.foldl step (Outcome.nothing site)

/-- Runs a change of the disk on every name, going on after failures. -/
def changeEach (site : Site) (change : Disk → String → Except String Disk)
    (names : List String) : Outcome :=
  forEach site (fun o name =>
    match change o.disk name with
    | .ok disk => o.onDisk disk
    | .error text => o.note (message site text) 1) names

/-! ### Characters -/

/-- The characters of a text. -/
def charactersOf (text : String) : List Char :=
  (Text.characters text).toList

/-! ### Paths -/

/-- The path that a word means. -/
def pathOf (word : String) : Path :=
  ⟨Text.decoded word⟩

/-- The name that a word ends in, slashes at its end left out. -/
def lastName (word : String) : String :=
  let cs := (word.toList.reverse.dropWhile (· == '/')).reverse
  if cs.isEmpty then (if word = "" then "" else "/")
  else String.ofList (cs.reverse.takeWhile (· != '/')).reverse

/-- The path of a name in a directory. -/
def within (directory name : String) : String :=
  if directory.toList.getLast? = some '/' then directory ++ name else directory ++ "/" ++ name

/-- The path from one place to another. -/
def relativePath (start goal : Place) : String :=
  let common := ((start.zip goal).takeWhile fun e => e.1 == e.2).length
  let names := List.replicate (start.length - common) ".." ++ (goal.drop common).map Text.encoded
  if names.isEmpty then "." else "/".intercalate names

/-! ### Reading -/

/-- Whether a word stands for the input. -/
def namesInput (word : String) : Bool :=
  ["-", "/dev/stdin", "/dev/fd/0", "/proc/self/fd/0"].contains word

/-- Reads a file. -/
def readPath (site : Site) (disk : Disk) (word : String) : Except Fault Source :=
  match disk.locateNode site.cwd true (pathOf word) with
  | .ok (_, .device .null) => .ok Source.none
  | .ok (_, .device _) => .ok .zeros
  | .ok _ => (disk.readBytes site.cwd (pathOf word)).map .bytes
  | .error fault => .error fault

/-- Reads a file, or what stands for the input. -/
def readWord (site : Site) (input : Source) (word : String) : Except Fault Source :=
  if namesInput word then .ok input else readPath site site.disk word

/-- Reads a file, or the input, or complains. -/
def readText (site : Site) (input : Source) (word : String) : Except String String :=
  match readWord site input word with
  | .ok source => .ok source.text
  | .error fault => .error (nameText word ++ ": " ++ wordsOf fault)

/-- The names of the files to read; the input stands for them if there are none. -/
def orInput (names : List String) : List String :=
  if names.isEmpty then ["-"] else names

/-- Writes what a step makes of each file, or of the input if no file is named. -/
def onFiles (site : Site) (input : Source) (names : List String) (step : String → String) :
    Outcome :=
  forEach site (fun o name =>
    match readText site input name with
    | .ok text => o.write (step text)
    | .error text => o.note (message site text) 1) (orInput names)

/-- Writes what a step makes of each file, where the steps hand something on; gives what the last one
hands on too. -/
def throughFiles {σ : Type} (site : Site) (input : Source) (names : List String) (start : σ)
    (step : σ → String → σ × String) : Outcome × σ :=
  (orInput names).foldl (fun s name =>
    match readText site input name with
    | .ok text =>
      let (next, out) := step s.2 text
      (s.1.write out, next)
    | .error text => (s.1.note (message site text) 1, s.2)) (Outcome.nothing site, start)

/-! ### Lines -/

/-- The lines of a text, and whether the last one has a line end. -/
def linesOf (text : String) : List String × Bool :=
  match text.toList.splitOn '\n' with
  | [] => ([], true)
  | parts =>
    if parts.getLast? = some [] then (parts.dropLast.map String.ofList, true)
    else (parts.map String.ofList, false)

/-- Lines as a text, each with a line end. -/
def unlines (lines : List String) : String :=
  String.join (lines.map (· ++ "\n"))

/-- A text in which the last line has an end. -/
def closed (text : String) : String :=
  if text = "" || text.toList.getLast? = some '\n' then text else text ++ "\n"

/-! ### Numbers -/

/-- A number at the right side of a field. -/
def padLeft (width : Nat) (text : String) : String :=
  String.ofList (List.replicate (width - text.length) ' ') ++ text

/-- A text at the left side of a field. -/
def padRight (width : Nat) (text : String) : String :=
  text ++ String.ofList (List.replicate (width - text.length) ' ')

end Utility

end SnippetForge.Shell
