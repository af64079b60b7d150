import SnippetForge.CommandLine.Run

/-!
# The program

Runs the command line in a world that standard input describes. Each line of the input is a file
operation in its JSON form; the operations are done in order in the working directory, and then
the command runs there. The log and the text of the command appear on the two output streams, and
the exit code is that of the command.

Only reading and printing happen here.
-/

namespace SnippetForge.Program

/-- The working directory of the program. -/
def workingDirectory : Place := ["work"]

/-- An empty world with a search path. -/
def emptyWorld (searchPath : String) : World :=
  let system := Disk.ofSystem Shell.Utility.names
  let disk := FileOperation.apply system [] workingDirectory.path (.directory ⟨""⟩)
  World.fresh disk workingDirectory [("PATH", searchPath)] StagingArea.countedNames

/-- The world after some lines of file operations; none if a line describes no operation. -/
def worldOf? (lines : List String) (searchPath : String) : Option World :=
  lines.foldlM (fun w line =>
    ((Json.parse? line).bind FileOperation.ofJson?).map (w.operate workingDirectory.path))
    (emptyWorld searchPath)

/-- Reads the lines of a stream that are not blank. -/
partial def readLines (input : IO.FS.Stream) (done : List String) : IO (List String) := do
  let line ← input.getLine
  if line.isEmpty then return done.reverse
  else if Text.isBlankText line then readLines input done
  else readLines input (line :: done)

/-- Prints what a command leaves on the output streams, and gives its exit code. -/
def finish (exit : CommandLine.Exit) : IO UInt32 := do
  exit.log.forM fun line => IO.eprintln line.text
  IO.eprint exit.error
  IO.print exit.output
  return (exit.status.toNat).toUInt32

/-- Runs the program. -/
def runMain (arguments : List String) : IO UInt32 := do
  let lines ← readLines (← IO.getStdin) []
  match worldOf? lines ((← IO.getEnv "PATH").getD "") with
  | none =>
    IO.eprintln "Error: standard input is not a list of file operations"
    return 2
  | some w =>
    match CommandLine.run w arguments with
    | some (_, exit) => finish exit
    | none =>
      IO.eprintln "Error: the command waits for something that never happens"
      return 1

end SnippetForge.Program

/-- The entry point. -/
def main (arguments : List String) : IO UInt32 :=
  SnippetForge.Program.runMain arguments
