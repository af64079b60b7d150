import SnippetForge.Path

/-!
# Arguments of the command line

Arguments are read from left to right against a table of options. An option is written `--name`,
with its value after an equals sign or as the next argument, or as one letter after a hyphen, with
the value directly behind it or as the next argument; letters of options without a value can be
joined. No option may be given twice, and an argument that looks like an option is never taken as
the value of one. After `--` everything is positional. The first thing that is wrong ends the
reading, and so does a request for help or for the version.
-/

namespace SnippetForge.CommandLine

/-! ### Tables of options -/

/-- What an option or a positional argument accepts. -/
inductive ValueKind
  /-- Any text. -/
  | text
  /-- Any text but the empty one. -/
  | path
  /-- A number of seconds. -/
  | number
  deriving DecidableEq, Repr

/-- An option. Without a kind of value it is a switch. -/
structure OptionSpec where
  name : String
  letter : Option Char
  value : Option ValueKind
  deriving DecidableEq, Repr

/-- What a command takes. -/
structure CommandSpec where
  options : List OptionSpec
  /-- How many positional arguments there may be, if that is limited. -/
  maxPositionals : Option Nat
  positional : ValueKind
  deriving DecidableEq, Repr

/-- Why reading arguments ends early. -/
inductive Stop
  | usage
  | help
  | version
  deriving DecidableEq, Repr

/-- What arguments say. -/
structure Arguments where
  switches : List String
  values : List (String × String)
  positionals : List String
  deriving DecidableEq, Repr

/-! ### Values -/

/-- The largest number of seconds. -/
def maxSeconds : Nat := 18446744073709551615

/-- The number that digits spell, with or without a plus sign. -/
def number? (s : String) : Option Nat :=
  let digits :=
    match s.toList with
    | '+' :: rest => rest
    | cs => cs
  if digits.isEmpty || !digits.all Char.isDigit then none
  else
    let n := digits.foldl (fun n c => n * 10 + (c.toNat - 48)) 0
    if n ≤ maxSeconds then some n else none

/-- Whether a text is a value of a kind. -/
def ValueKind.accepts : ValueKind → String → Bool
  | .text, _ => true
  | .path, s => s != ""
  | .number, s => (number? s).isSome

/-! ### Reading -/

/-- The state of reading the arguments of one command. -/
structure Reader where
  arguments : Arguments
  /-- The option that waits for its value. -/
  pending : Option OptionSpec
  deriving DecidableEq, Repr

namespace Reader

/-- Nothing has been read. -/
def empty : Reader :=
  ⟨⟨[], [], []⟩, none⟩

/-- Whether an option has been given already. -/
def isGiven (r : Reader) (o : OptionSpec) : Bool :=
  r.arguments.switches.contains o.name || (r.arguments.values.lookup o.name).isSome

/-- Notes a switch. -/
def addSwitch (r : Reader) (o : OptionSpec) : Except Stop Reader :=
  if o.name = "help" then .error .help
  else if o.name = "version" then .error .version
  else if r.isGiven o then .error .usage
  else .ok { r with arguments := { r.arguments with switches := o.name :: r.arguments.switches } }

/-- Notes the value of an option. -/
def addValue (r : Reader) (o : OptionSpec) (kind : ValueKind) (value : String) :
    Except Stop Reader :=
  if r.isGiven o || !kind.accepts value then .error .usage
  else
    .ok ⟨{ r.arguments with values := r.arguments.values ++ [(o.name, value)] }, none⟩

/-- Notes a positional argument. -/
def addPositional (spec : CommandSpec) (r : Reader) (value : String) : Except Stop Reader :=
  let isFull :=
    match spec.maxPositionals with
    | some n => n ≤ r.arguments.positionals.length
    | none => false
  if isFull || !spec.positional.accepts value then .error .usage
  else
    .ok { r with
      arguments := { r.arguments with positionals := r.arguments.positionals ++ [value] } }

/-- Reads an argument that starts with two hyphens. -/
def readLong (spec : CommandSpec) (r : Reader) (body : List Char) : Except Stop Reader :=
  let name := String.ofList (body.takeWhile (· != '='))
  let attached :=
    match body.dropWhile (· != '=') with
    | _ :: value => some (String.ofList value)
    | [] => none
  match spec.options.find? (·.name == name) with
  | none => .error .usage
  | some o =>
    match o.value, attached with
    | none, none => r.addSwitch o
    | none, some _ => .error .usage
    | some kind, some value => r.addValue o kind value
    | some _, none => if r.isGiven o then .error .usage else .ok { r with pending := some o }

/-- Reads the letters after one hyphen. -/
def readLetters (spec : CommandSpec) : Reader → List Char → Except Stop Reader
  | r, [] => .ok r
  | r, letter :: rest =>
    match spec.options.find? (·.letter == some letter) with
    | none => .error .usage
    | some o =>
      match o.value with
      | none =>
        match r.addSwitch o with
        | .ok r => readLetters spec r rest
        | .error stop => .error stop
      | some kind =>
        match rest with
        | [] => if r.isGiven o then .error .usage else .ok { r with pending := some o }
        | '=' :: value => r.addValue o kind (String.ofList value)
        | value => r.addValue o kind (String.ofList value)

/-- Reads an argument that is no option. -/
def readPlain (spec : CommandSpec) (r : Reader) (value : String) : Except Stop Reader :=
  match r.pending with
  | some o => r.addValue o (o.value.getD .text) value
  | none => r.addPositional spec value

/-- Reads one argument. -/
def readArgument (spec : CommandSpec) (r : Reader) (argument : String) : Except Stop Reader :=
  match argument.toList with
  | '-' :: '-' :: body =>
    if r.pending.isSome then .error .usage else r.readLong spec body
  | '-' :: letter :: rest =>
    if r.pending.isSome then .error .usage else r.readLetters spec (letter :: rest)
  | _ => r.readPlain spec argument

/-- The arguments that have been read; an option that waits for its value is an error. -/
def finish (r : Reader) : Except Stop Arguments :=
  if r.pending.isSome then .error .usage else .ok r.arguments

/-- Reads positional arguments only. -/
def readPositionals (spec : CommandSpec) : Reader → List String → Except Stop Arguments
  | r, [] => r.finish
  | r, value :: rest =>
    match r.addPositional spec value with
    | .ok r => readPositionals spec r rest
    | .error stop => .error stop

/-- Reads all arguments of a command. -/
def readAll (spec : CommandSpec) : Reader → List String → Except Stop Arguments
  | r, [] => r.finish
  | r, "--" :: rest => if r.pending.isSome then .error .usage else readPositionals spec r rest
  | r, argument :: rest =>
    match r.readArgument spec argument with
    | .ok r => readAll spec r rest
    | .error stop => .error stop

end Reader

/-! ### Commands -/

/-- The switch for a detailed log, which every command takes. -/
def verboseSwitch : OptionSpec := ⟨"verbose", some 'v', none⟩

/-- The switch that asks for help. -/
def helpSwitch : OptionSpec := ⟨"help", some 'h', none⟩

/-- The switch that asks for the version. -/
def versionSwitch : OptionSpec := ⟨"version", some 'V', none⟩

/-- What may stand before the name of a command. -/
def leadingSpec : CommandSpec :=
  ⟨[verboseSwitch, helpSwitch, versionSwitch], some 0, .text⟩

/-- What the command that resolves imports takes. -/
def resolveSpec : CommandSpec :=
  ⟨[⟨"blocks", none, some .path⟩, ⟨"package-root", none, some .path⟩, ⟨"dedupe", none, none⟩,
    verboseSwitch, helpSwitch], none, .text⟩

/-- What the command that compiles a snippet takes. -/
def compileSpec : CommandSpec :=
  ⟨[⟨"language", some 'l', some .text⟩, ⟨"project-root", none, some .path⟩,
    ⟨"node", none, some .path⟩, ⟨"timeout-secs", none, some .number⟩, ⟨"json", none, none⟩,
    verboseSwitch, helpSwitch], some 1, .path⟩

/-- Where the snippets to resolve come from. -/
inductive ImportSource
  /-- The names are given. -/
  | names (imports : List String)
  /-- A file lists snippets. -/
  | file (path : Path)
  deriving DecidableEq, Repr

/-- What the user wants to be done. -/
inductive Command
  | resolve (source : ImportSource) (packageRoot : Path) (dedupe : Bool)
  | compile (source : Path) (language : String) (projectRoot : Path) (node : Option Path)
      (timeoutSecs : Nat) (json : Bool)
  deriving DecidableEq, Repr

/-- A command, and whether its log is shown in detail. -/
structure Invocation where
  command : Command
  verbose : Bool
  deriving DecidableEq, Repr

/-- The value of an option. -/
def Arguments.value? (a : Arguments) (name : String) : Option String :=
  a.values.lookup name

/-- Whether a switch is given. -/
def Arguments.has (a : Arguments) (name : String) : Bool :=
  a.switches.contains name

/-- The command that resolves imports. -/
def resolveCommand (a : Arguments) : Except Stop Command :=
  let root : Path := ⟨(a.value? "package-root").getD "node_modules"⟩
  match a.value? "blocks" with
  | none => .ok (.resolve (.names a.positionals) root (a.has "dedupe"))
  | some file =>
    if a.positionals.isEmpty then .ok (.resolve (.file ⟨file⟩) root (a.has "dedupe"))
    else .error .usage

/-- The command that compiles a snippet. -/
def compileCommand (a : Arguments) : Except Stop Command :=
  match a.positionals with
  | [source] =>
    .ok (.compile ⟨source⟩ ((a.value? "language").getD "javascript")
      ⟨(a.value? "project-root").getD "."⟩ ((a.value? "node").map Path.mk)
      (((a.value? "timeout-secs").bind number?).getD 0) (a.has "json"))
  | _ => .error .usage

/-- Reads the arguments of a command of a given kind. -/
def readCommand (spec : CommandSpec) (build : Arguments → Except Stop Command) (verbose : Bool)
    (arguments : List String) : Except Stop Invocation :=
  match Reader.empty.readAll spec arguments with
  | .error stop => .error stop
  | .ok a => (build a).map fun command => ⟨command, verbose || a.has "verbose"⟩

/-- Reads all arguments. `r` holds what stands before the name of the command. -/
def readInvocation : Reader → List String → Except Stop Invocation
  | _, [] => .error .usage
  | r, "resolve" :: rest =>
    readCommand resolveSpec resolveCommand (r.arguments.has "verbose") rest
  | r, "compile" :: rest =>
    readCommand compileSpec compileCommand (r.arguments.has "verbose") rest
  | _, "help" :: rest =>
    match rest with
    | [] => .error .help
    | ["resolve"] => .error .help
    | ["compile"] => .error .help
    | ["help"] => .error .help
    | _ => .error .usage
  | _, "--" :: _ => .error .usage
  | r, argument :: rest =>
    match r.readArgument leadingSpec argument with
    | .ok r => readInvocation r rest
    | .error stop => .error stop

/-- The invocation that arguments mean. -/
def parse (arguments : List String) : Except Stop Invocation :=
  readInvocation Reader.empty arguments

end SnippetForge.CommandLine
