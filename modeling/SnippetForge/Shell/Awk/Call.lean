import SnippetForge.Shell.Awk.Evaluation
import SnippetForge.Shell.Utility.Basic

/-!
# Calls of the program for records

The words of a call name a program, or files that hold one, and files to read; the words among them
that set values do so when their turn comes. A run ends with an outcome, or it stops because a
command has to be run or more of the input is needed.
-/

namespace SnippetForge.Shell.Awk

/-! ### Calls -/

/-- What the words of a call say. -/
structure Call where
  separator : Option String
  settings : List String
  files : List String
  words : List String

/-- Why words are no call, or what is shown in place of a run. -/
inductive CallRefusal
  | help
  | version
  | flaw (text : String)

/-- What an option says that has a value. -/
def Call.withOption (call : Call) (c : Char) (value : String) : Except CallRefusal Call :=
  match c with
  | 'F' => .ok { call with separator := some value }
  | 'v' =>
    if (settingOf? value).isSome then .ok { call with settings := call.settings ++ [value] }
    else .error (.flaw ("improper assignment: -v " ++ value))
  | 'f' => .ok { call with files := call.files ++ [value] }
  | _ =>
    let isStart (name : String) : Bool := value.toList.isPrefixOf name.toList
    if value = "" then .ok call
    else if isStart "version" then .error .version
    else if isStart "help" || isStart "usage" then .error .help
    else .ok call

/-- Reads the words of a call. -/
def Call.read : (fuel : Nat) → Call → List String → Except CallRefusal Call
  | 0, call, words => .ok { call with words := words }
  | fuel + 1, call, word :: rest =>
    match word.toList with
    | ['-', '-'] => .ok { call with words := rest }
    | '-' :: c :: cs =>
      if word = "--version" then .error .version
      else if word = "--help" then .error .help
      else if ['F', 'v', 'f', 'W'].contains c then
        match cs, rest with
        | [], [] => .error (.flaw ("option -" ++ String.singleton c ++ " lacks argument"))
        | [], value :: rest => (call.withOption c value).bind (Call.read fuel · rest)
        | cs, rest => (call.withOption c (String.ofList cs)).bind (Call.read fuel · rest)
      else .error (.flaw ("not an option: " ++ word))
    | _ => .ok { call with words := word :: rest }
  | _, call, [] => .ok call

/-- What the options do, line by line. -/
def usage : String :=
  Utility.unlines
    ["Usage: mawk [Options] [Program] [file ...]", "", "Program:",
      "    The -f option value is the name of a file containing program text.",
      "    If no -f option is given, a \"--\" ends option processing; the following",
      "    parameters are the program text.", "", "Options:",
      "    -f program-file  Program  text is read from file instead of from the",
      "                     command-line.  Multiple -f options are accepted.",
      "    -F value         sets the field separator, FS, to value.",
      "    -v var=value     assigns value to program variable var.",
      "    --               unambiguous end of options.", "",
      "    Implementation-specific options are prefixed with \"-W\".  They can be",
      "    abbreviated:", "", "    -W version       show version information and exit.",
      "    -W compat        pre-POSIX 2001.",
      "    -W dump          show assembler-like listing of program and exit.",
      "    -W help          show this message and exit.",
      "    -W interactive   set unbuffered output, line-buffered input.",
      "    -W exec file     use file as program as well as last option.",
      "    -W posix         stricter POSIX checking.",
      "    -W random=number set initial random seed.",
      "    -W sprintf=number adjust size of sprintf buffer.",
      "    -W usage         show this message and exit."]

/-! ### Runs -/

/-- What becomes of a run. -/
inductive Progress
  | ended (o : Outcome)
  /-- A command has to be run; what was written before that, and the disk. -/
  | asking (written : List (Nat × String)) (disk : Disk) (r : CommandRequest)
  | starved

/-- How many bytes of an input are taken at a time. -/
def blockSize : Nat := 4096

/-- How many bytes have been taken of an input of some size if so many are left over. -/
def takenOf (size left : Nat) : Nat :=
  let used := size - left
  min size ((used + blockSize - 1) / blockSize * blockSize)

/-- The state at the start of a run. -/
def initialState (site : Site) (label : String) (call : Call)
    (definitions : List (String × Definition)) (supply : Supply) (answers : List CommandAnswer) :
    State :=
  let operands := (label :: call.words).zipIdx.map fun w => (toString w.2, Value.ofOutside w.1)
  let tableOf (entries : List (String × Value)) : Table :=
    entries.foldl (fun t e => t.put (.text e.1) e.2) Table.empty
  let operandTable :=
    operands.foldl (fun t e => t.put (.whole ((e.1.toInt?).getD 0)) e.2) Table.empty
  let environment := site.environment.map fun e => (e.1, Value.ofOutside e.2)
  let texts : List (String × String) :=
    [("FS", " "), ("OFS", " "), ("ORS", "\n"), ("RS", "\n"), ("SUBSEP", "\x1c"),
      ("CONVFMT", "%.6g"), ("OFMT", "%.6g"), ("FILENAME", "")]
  let numbers : List (String × Nat) := [("NR", 0), ("FNR", 0), ("ARGC", operands.length)]
  let globals : Std.HashMap String Slot :=
    .ofList (texts.map (fun e => (e.1, Slot.value (.text e.2)))
      ++ numbers.map (fun e => (e.1, Slot.value (.ofInt e.2)))
      ++ [("ARGV", .table 0), ("ENVIRON", .table 1)])
  { site := site, definitions := .ofList definitions, globals := globals, locals := [],
    tables := .ofList [(0, operandTable), (1, tableOf environment)], nextTable := 2, record := "",
    fields := #[], isStale := false, operand := 1, hasInput := false, current := none,
    input := ⟨supply.source.text.toList, supply.isWhole⟩, files := [], commands := [],
    targets := [], out := [], written := [], disk := site.disk, answers := answers, code := 0,
    seed := .unset, between := [] }

/-- Sets the values that options ask for, runs a program and closes what it has opened. -/
def runAll (call : Call) (p : Program) : Run Unit := do
  for word in call.settings do
    match settingOf? word with
    | some (name, value) => setName name (.ofOutside (unescaped value))
    | none => pure ()
  if let some s := call.separator then setName "FS" (.text (unescaped s))
  p.run
  closeAll

/-- What becomes of a run that has stopped in a state. A failure is told before output that was kept
back. -/
def progressOf (label : String) (size : Nat) (result : Except Stop Unit) (s : State) : Progress :=
  let ended (s : State) : Progress :=
    .ended ⟨s.disk, s.written.reverse, s.code, some (takenOf size s.input.rest.length)⟩
  match result with
  | .error (.asks r) => .asking s.written.reverse s.disk r
  | .error .starves => .starved
  | .error (.fails text) =>
    let told :=
      { s with written := (2, label ++ ": " ++ text ++ "\n") :: s.written, code := 2 }
    match closeAll.run.run told with
    | (.error (.asks r), s) => .asking s.written.reverse s.disk r
    | (_, s) => ended { s with code := 2 }
  | .error .sinks =>
    ended { s with written := (2, label ++ ": function call nesting too deep\n") :: s.written,
                   code := 2 }
  | _ => ended s

/-- The text of the program that a call names and its other words, and the file whose lines are
counted; or what is wrong. -/
def programText (site : Site) (supply : Supply) (call : Call) :
    Except String (Option (String × Option String × Call)) := do
  match call.files, call.words with
  | [], [] => return none
  | [], text :: words => return some (text, none, { call with words := words })
  | files, _ => do
    let texts ← files.mapM fun name =>
      match Utility.readWord site supply.source name with
      | .ok source => .ok source.text
      | .error fault => .error ("cannot open \"" ++ name ++ "\" (" ++ Utility.wordsOf fault ++ ")")
    return some ("\n".intercalate texts, files.getLast?, call)

/-- What is said about a program that is refused. -/
def refusalText (label : String) (file : Option String) (r : Refusal) : String :=
  let strangers := r.strangers.map fun s =>
    label ++ ": " ++ toString s.1 ++ ": unexpected character '" ++ String.singleton s.2 ++ "'\n"
  let place := (file.map (· ++ ": ")).getD ""
  let complaints := r.complaints.map fun c =>
    label ++ ": " ++ place ++ "line " ++ toString c.line ++ ": " ++ c.text ++ "\n"
  String.join (strangers ++ complaints)

/-- What becomes of a call, with the answers to all that it has asked for so far. -/
def progress (site : Site) (words : List String) (supply : Supply)
    (answers : List CommandAnswer) : Progress :=
  let label := Utility.lastName site.label
  let tells (descriptor : Nat) (text : String) (code : Nat) : Progress :=
    .ended ⟨site.disk, [(descriptor, text)], code, some 0⟩
  match Call.read words.length ⟨none, [], [], []⟩ words with
  | .error .help => tells 1 usage 0
  | .error .version => tells 1 "mawk 1.3.4 20240123\n" 0
  | .error (.flaw text) => tells 2 (label ++ ": " ++ text ++ "\n") 2
  | .ok call =>
    match programText site supply call with
    | .error text => tells 2 (label ++ ": " ++ text ++ "\n") 2
    | .ok none => tells 2 usage 0
    | .ok (some (text, file, call)) =>
      match readProgram text.toList with
      | .error r => tells 2 (refusalText label file r) 2
      | .ok p =>
        let start := initialState site label call p.definitions supply answers
        let (result, s) := (runAll call p).run.run start
        progressOf label start.input.rest.length result s

end SnippetForge.Shell.Awk

namespace SnippetForge.Shell.Utility

/-- Goes through records by a program that runs no commands; none if that or more input is
needed. -/
def awk (site : Site) (words : List String) (supply : Supply) : Option Outcome :=
  match Awk.progress site words supply [] with
  | .ended o => some o
  | _ => none

end SnippetForge.Shell.Utility
