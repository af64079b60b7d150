import SnippetForge.CommandLine.Arguments
import SnippetForge.Compilation
import SnippetForge.Discovery
import SnippetForge.Text.Terminal
import SnippetForge.Webpack.Toolchain

/-!
# Running the command line

A command ends with an exit code, or by a signal, and with what it leaves on the two output streams. On the error
stream the log comes first, as far as its level is shown, and then the text of the command. A
failure is shown with its hint; a file that the command itself cannot read is named together with
the cause.
-/

namespace SnippetForge.CommandLine

/-- How a command ends. -/
structure Exit where
  status : ExitStatus
  output : String
  /-- The log lines that are shown. -/
  log : List LogLine
  /-- The text on the error stream after the log. -/
  error : String
  deriving DecidableEq, Repr

/-! ### Errors -/

/-- Why a command fails. -/
inductive CommandError
  /-- Discovery or compilation has failed. -/
  | failure (failure : Failure)
  /-- Something the command itself does has failed. -/
  | failedTo (action cause : String)
  deriving DecidableEq, Repr

/-- The text of an error. -/
def CommandError.text : CommandError → String
  | .failure f => "Error: " ++ f.withHint ++ "\n"
  | .failedTo action cause => "Error: " ++ action ++ "\n\nCaused by:\n    " ++ cause ++ "\n"

/-- What a command gives: its text on both streams, or an error. -/
abbrev Outcome := Except CommandError (String × String)

/-! ### Resolving -/

/-- The snippets of a source. -/
def snippetsOf (w : World) : ImportSource → Except CommandError (List Snippet)
  | .names imports => .ok [Snippet.ofImports imports]
  | .file path =>
    match w.disk.readText w.cwd path with
    | .error fault =>
      .error (.failedTo ("failed to read code blocks from " ++ path.text) fault.message)
    | .ok text =>
      match Snippet.listOfText? text with
      | some snippets => .ok snippets
      | none =>
        .error (.failedTo (path.text ++ " is not a JSON array of code blocks") "invalid JSON")

/-- Prints the manifest of a source. -/
def resolve (w : World) (source : ImportSource) (packageRoot : Path) (dedupe : Bool) :
    World × Outcome :=
  match snippetsOf w source with
  | .error e => (w, .error e)
  | .ok snippets =>
    match Discovery.resolve w.disk w.cwd ⟨packageRoot, dedupe⟩ snippets with
    | (log, .error failure) => (w.reportAll log, .error (.failure failure))
    | (log, .ok entries) =>
      ((w.reportAll log).report (.info ("Resolved " ++ toString entries.length ++ " modules")),
        .ok ((ManifestEntry.listToJson entries).pretty ++ "\n", ""))

/-! ### Compiling -/

/-- The limit that a number of seconds means; zero means none. -/
def limitOf (seconds : Nat) : Option Duration :=
  if seconds = 0 then none else some (Duration.ofSecs seconds)

/-- The line that shows a diagnostic. -/
def diagnosticText (d : Diagnostic) : String :=
  d.severity.label ++ ": " ++ d.message ++ "\n"

/-- How a bundle is shown: as it is with its diagnostics on the error stream, or as JSON. -/
def render (json : Bool) (bundle : Bundle) : String × String :=
  if json then (bundle.toJson.pretty ++ "\n", "")
  else (bundle.code, String.join (bundle.diagnostics.map diagnosticText))

/-- Compiles the snippet in a file, in no more than some steps. One that never comes to an end gives
the world as it is left. -/
def compileFile (steps : Nat) (w : World) (source : Path) (language : String) (projectRoot : Path)
    (node : Option Path) (timeoutSecs : Nat) :
    Except World (World × Except CommandError Bundle) :=
  match w.disk.readText w.cwd source with
  | .error fault => .ok (w, .error (.failedTo ("failed to read " ++ source.text) fault.message))
  | .ok text =>
    let settings := { Settings.forProject projectRoot with nodePath := node }
    match Webpack.programOf w settings with
    | .error failure => .ok (w, .error (.failure failure))
    | .ok program =>
      let (tokens, token) := w.tokens.add none
      let c := Compilation.new settings text language ⟨limitOf timeoutSecs, some token⟩
      let w := (w.withTokens tokens).interruptBy token
      match c.run (Toolchain.webpack program projectRoot) steps w with
      | .error w => .error w
      | .ok (w, .error failure) => .ok (w, .error (.failure failure))
      | .ok (w, .ok bundle) =>
        .ok (w.report (.info
          ("Compiled " ++ source.text ++ " in " ++ toString bundle.elapsed ++ "ms")), .ok bundle)

/-- Compiles the snippet in a file and shows the bundle. -/
def compile (steps : Nat) (w : World) (source : Path) (language : String) (projectRoot : Path)
    (node : Option Path) (timeoutSecs : Nat) (json : Bool) : Except World (World × Outcome) :=
  (compileFile steps w source language projectRoot node timeoutSecs).map fun p =>
    (p.1, p.2.map (render json))

/-! ### Commands -/

/-- Runs a command, a compilation in no more than some steps. -/
def perform (steps : Nat) (w : World) : Command → Except World (World × Outcome)
  | .resolve source packageRoot dedupe => .ok (resolve w source packageRoot dedupe)
  | .compile source language projectRoot node timeoutSecs json =>
    compile steps w source language projectRoot node timeoutSecs json

/-- Whether a log line is shown. -/
def isShown (verbose : Bool) (line : LogLine) : Bool :=
  verbose || line.level == .warn

/-- A log line as it is shown. -/
def shownLine (line : LogLine) : LogLine :=
  { line with message := Text.inert line.message }

/-- The exit of a command with its outcome. -/
def exitOf (log : List LogLine) : Outcome → Exit
  | .ok (output, error) => ⟨.code 0, output, log, error⟩
  | .error e => ⟨.code 1, "", log, e.text⟩

/-- The version of the program. -/
def versionText : String := "codeblock 0.1.0\n"

/-- The exit when there is no command to run. -/
def Stop.exit : Stop → Exit
  | .usage => ⟨.code 2, "", [], ""⟩
  | .help => ⟨.code 0, "", [], ""⟩
  | .version => ⟨.code 0, versionText, [], ""⟩

/-- The log lines since an earlier state that are shown. -/
def shownSince (before after : World) (verbose : Bool) : List LogLine :=
  ((after.log.drop before.log.length).filter (isShown verbose)).map shownLine

/-- Runs the program with some arguments, a compilation in no more than some steps; none if it waits
for something that does not happen. -/
def runWithin (steps : Nat) (w : World) (arguments : List String) : Option (World × Exit) :=
  match parse arguments with
  | .error stop => some (w, stop.exit)
  | .ok invocation =>
    match perform steps w invocation.command with
    | .ok (after, outcome) => some (after, exitOf (shownSince w after invocation.verbose) outcome)
    | .error after =>
      after.ended.map fun s =>
        (after, ⟨.signal s, "", shownSince w after invocation.verbose, ""⟩)

/-- How many steps a compilation may take. -/
def maxSteps : Nat := 10000000

/-- Runs the program with some arguments; none if it waits for something that never happens. -/
def run (w : World) (arguments : List String) : Option (World × Exit) :=
  runWithin maxSteps w arguments

end SnippetForge.CommandLine
