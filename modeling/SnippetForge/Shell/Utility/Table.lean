import SnippetForge.Shell.Awk.Call
import SnippetForge.Shell.Utility.Calculation
import SnippetForge.Shell.Utility.Columns
import SnippetForge.Shell.Utility.Comparing
import SnippetForge.Shell.Utility.Copying
import SnippetForge.Shell.Utility.Dumping
import SnippetForge.Shell.Utility.EditFiles
import SnippetForge.Shell.Utility.Encoding
import SnippetForge.Shell.Utility.Entries
import SnippetForge.Shell.Utility.Listing
import SnippetForge.Shell.Utility.Merging
import SnippetForge.Shell.Utility.Numbering
import SnippetForge.Shell.Utility.Placing
import SnippetForge.Shell.Utility.Repeats
import SnippetForge.Shell.Utility.Search
import SnippetForge.Shell.Utility.Sorting
import SnippetForge.Shell.Utility.Translating
import SnippetForge.Shell.Utility.Widths
import SnippetForge.Shell.Utility.Words

/-!
# The table of system programs

Which programs there are, whether their words make them read their input, and what they do. A program
that needs more than its input and the disk, such as one that waits, sends signals or starts
another program, is here by its name only.
-/

namespace SnippetForge.Shell.Utility

/-- A program of the system. -/
structure Program where
  /-- Whether some words make it read its input. -/
  reads : List String → Bool
  /-- What it does; none if it needs more of its input. -/
  run : Site → List String → Supply → Option Outcome

namespace Program

/-- A program that reads no input. -/
def plain (run : Site → List String → Outcome) : Program :=
  ⟨fun _ => false, fun site words _ => some (run site words)⟩

/-- A program that needs all of its input if it reads it. -/
def reader (reads : List String → Bool) (run : Site → List String → Source → Outcome) : Program :=
  ⟨reads, fun site words supply =>
    if supply.isWhole then some (run site words supply.source) else none⟩

end Program

/-! ### Who reads -/

/-- Whether a program reads its input that reads it if it names no files. -/
def readsUnlessNamed (t : OptionTable) (words : List String) : Bool :=
  match Call.read t words with
  | .ok call => (orInput call.operands).any namesInput
  | .error _ => false

/-- Whether a program reads its input that reads it only under its name. -/
def readsIfNamed (t : OptionTable) (words : List String) : Bool :=
  match Call.read t words with
  | .ok call => call.operands.any namesInput
  | .error _ => false

/-- Whether a program reads its input whose first operand is no file, unless some options stand for
that operand. -/
def readsAfterScript (t : OptionTable) (options : String) (words : List String) : Bool :=
  match Call.read t words with
  | .ok call =>
    let names := if call.hasAny options then call.operands else call.operands.drop 1
    (orInput names).any namesInput || (call.values 'f').any namesInput
  | .error _ => false

/-- Whether `grep` reads its input. -/
def grepReads (words : List String) : Bool :=
  match Call.read grepTable words with
  | .ok call =>
    let names := if call.hasAny "ef" then call.operands else call.operands.drop 1
    let recurses := call.hasAny "rR" || call.value? 'd' = some "recurse"
    !(recurses && names.isEmpty) && readsAfterScript grepTable "ef" words
  | .error _ => false

/-- A program that is `grep` with one more option. -/
def grepWith (option : String) : Program :=
  ⟨fun words => grepReads (option :: words),
    fun site words supply => grep { site with label := "grep" } (option :: words) supply⟩

/-- Whether `sed` reads its input. -/
def sedReads (words : List String) : Bool :=
  match Call.read sedTable words with
  | .ok call => !call.has 'i' && readsAfterScript sedTable "ef" words
  | .error _ => false

/-- Whether `cmp` reads its input, which stands for the second file if only one is named. -/
def cmpReads (words : List String) : Bool :=
  match Call.read cmpTable words with
  | .ok call => call.operands.length = 1 || (call.operands.take 2).any namesInput
  | .error _ => false

/-- Whether `od` reads its input. -/
def odReads (words : List String) : Bool :=
  match Call.read Dumping.table words with
  | .ok call => (orInput (Dumping.operandsIn call).1).any namesInput
  | .error _ => false

/-- Whether `dd` reads its input. -/
def ddReads (words : List String) : Bool :=
  (words.filterMap setting?).all fun s => s.1 != "if" || namesInput s.2

/-! ### The programs -/

/-- Programs that change or show entries of the disk. -/
def entryPrograms : List (String × Program) :=
  [("cp", .plain cp), ("mv", .plain mv), ("rm", .plain rm), ("mkdir", .plain mkdir),
    ("rmdir", .plain rmdir), ("ln", .plain ln), ("link", .plain link), ("unlink", .plain unlink),
    ("touch", .plain touch), ("truncate", .plain truncate), ("chmod", .plain chmod),
    ("mkfifo", .plain mkfifo), ("mktemp", .plain mktemp), ("ls", .plain ls),
    ("readlink", .plain readlink), ("realpath", .plain realpath), ("stat", .plain stat),
    ("dirname", .plain dirnames), ("basename", .plain basenames)]

/-- Programs that work on text. -/
def textPrograms : List (String × Program) :=
  [("cat", .reader (readsUnlessNamed catTable) cat),
    ("head", ⟨fun words => readsUnlessNamed extentTable (withPlainCount false words), head⟩),
    ("tail", .reader (fun words => readsUnlessNamed extentTable (withPlainCount true words)) tail),
    ("wc", .reader (readsUnlessNamed wcTable) wc),
    ("sort", .reader (readsUnlessNamed Sorting.table) sort),
    ("uniq", .reader (readsUnlessNamed Repeats.table) uniq),
    ("cut", .reader (readsUnlessNamed Columns.cutTable) cut),
    ("paste", .reader (readsUnlessNamed Columns.pasteTable) paste),
    ("join", .reader (readsIfNamed Merging.joinTable) join),
    ("comm", .reader (readsIfNamed Merging.commTable) comm),
    ("tr", .reader (fun _ => true) tr),
    ("tac", .reader (readsUnlessNamed tacTable) tac),
    ("rev", .reader (readsUnlessNamed .empty) rev),
    ("nl", .reader (readsUnlessNamed Numbering.table) nl),
    ("fold", .reader (readsUnlessNamed Widths.foldTable) fold),
    ("expand", .reader (readsUnlessNamed Widths.expandTable) expand),
    ("unexpand", .reader (readsUnlessNamed Widths.unexpandTable) unexpand),
    ("od", .reader odReads od),
    ("base64", .reader (readsUnlessNamed Encoding.table) base64),
    ("base32", .reader (readsUnlessNamed Encoding.table) base32),
    ("tee", .reader (fun _ => true) tee),
    ("dd", ⟨ddReads, dd⟩),
    ("cmp", .reader cmpReads cmp),
    ("diff", .reader (readsIfNamed diffTable) diff),
    ("sed", ⟨sedReads, sed⟩),
    ("grep", ⟨grepReads, grep⟩),
    ("awk", ⟨fun _ => true, awk⟩), ("mawk", ⟨fun _ => true, awk⟩), ("nawk", ⟨fun _ => true, awk⟩),
    ("egrep", grepWith "-E"), ("fgrep", grepWith "-F"), ("rgrep", grepWith "-r")]

/-- Programs that work on their words alone, or say something about the system. -/
def wordPrograms : List (String × Program) :=
  [("true", .plain fun site _ => ends site 0), ("false", .plain fun site _ => ends site 1),
    ("echo", .plain fun site words => prints site (plainEcho words)),
    ("printf", .plain formatted), ("test", .plain test), ("[", .plain bracketTest),
    ("seq", .plain seq), ("expr", .plain expr), ("printenv", .plain printenv),
    ("pwd", .plain fun site _ => prints site (Text.encoded site.cwd.path.text ++ "\n")),
    ("sync", .plain fun site _ => ends site 0), ("id", .plain identity),
    ("whoami", .plain (fixedText "root")), ("groups", .plain (fixedText "root")),
    ("uname", .plain uname), ("arch", .plain (fixedText "x86_64")),
    ("nproc", .plain (fixedText "1")), ("hostname", .plain (fixedText "localhost")),
    ("logname", .plain fun site _ => fails site "no login name" 1),
    ("tty", .plain fun site _ => { prints site "not a tty\n" with code := 1 })]

/-- The programs that need no more than their words, their input and the disk. -/
def programs : List (String × Program) :=
  entryPrograms ++ textPrograms ++ wordPrograms

/-- Programs that wait, send signals or start other programs. -/
def otherNames : List String :=
  ["sh", "dash", "bash", "env", "sleep", "kill", "yes", "nohup", "setsid", "nice", "stdbuf",
    "timeout", "find", "xargs"]

/-- The names of all programs of the system. -/
def names : List String :=
  otherNames ++ programs.map (·.1)

end SnippetForge.Shell.Utility
