import SnippetForge.Disk.Lookup

/-!
# Changing a disk

Each change takes the directory that relative paths start in and gives the changed disk or a
fault; a fault leaves the disk as it was, since nothing is handed back. Making a directory is
exclusive: it fails if the name is taken, even by a link that leads nowhere. Writing a file follows
links, so it may create the file a dangling link points to.

Removing a tree never follows a link. A link at the root of the tree is removed as a link; a
directory is removed with everything below it; anything else is refused.
-/

namespace SnippetForge.Disk

/-! ### Making -/

/-- A path without the slashes at its end. -/
def dropEndSlashes (p : Path) : Path :=
  match (p.text.toList.reverse.dropWhile (· == '/')).reverse with
  | [] => p
  | cs => ⟨String.ofList cs⟩

/-- The free place that a path leads to, in a directory that may be changed. -/
def freePlace (d : Disk) (directory : Place) (p : Path) : Except Fault Place :=
  match d.locate directory false (dropEndSlashes p) with
  | .ok (.free parent name) =>
    if d.mayChange parent then .ok (parent ++ [name]) else .error (.system .accessDenied)
  | .ok (.taken _ _) => .error (.system .exists)
  | .error fault => .error fault

/-- Puts a node at a free name. -/
def make (d : Disk) (directory : Place) (p : Path) (node : Node) (mode : Mode) :
    Except Fault Disk :=
  match d.freePlace directory p with
  | .ok place => .ok (d.add place node mode)
  | .error fault => .error fault

/-- Makes a directory where nothing is. -/
def makeDirectory (d : Disk) (directory : Place) (p : Path) (mode : Mode) : Except Fault Disk :=
  d.make directory p .directory mode

/-- Makes a directory unless one is there. -/
def ensureDirectory (d : Disk) (directory : Place) (p : Path) : Except Fault Disk :=
  match d.makeDirectory directory p Mode.directory with
  | .ok d => .ok d
  | .error fault => if d.isDirectory directory p then .ok d else .error fault

/-- Makes a directory and those above it, as far as they are missing. `fuel` bounds how far up. -/
def ensureDirectories (d : Disk) (directory : Place) : (fuel : Nat) → Path → Except Fault Disk
  | 0, p => d.ensureDirectory directory p
  | fuel + 1, p =>
    match d.makeDirectory directory p Mode.directory with
    | .ok d => .ok d
    | .error (.system .noEntry) =>
      match p.parent? with
      | none => .error (.system .noEntry)
      | some above =>
        if above.text = "" then .error (.system .noEntry)
        else
          match d.ensureDirectories directory fuel above with
          | .ok d => d.ensureDirectory directory p
          | .error fault => .error fault
    | .error fault => if d.isDirectory directory p then .ok d else .error fault

/-- Makes a directory and those above it, as far as they are missing. -/
def makeDirectories (d : Disk) (directory : Place) (p : Path) : Except Fault Disk :=
  if p.text = "" then .ok d else d.ensureDirectories directory p.segments.length p

/-- Makes a link. -/
def makeLink (d : Disk) (directory : Place) (p target : Path) : Except Fault Disk :=
  d.make directory p (.link target) Mode.unrestricted

/-- Makes a named pipe. -/
def makePipe (d : Disk) (directory : Place) (p : Path) (mode : Mode) : Except Fault Disk :=
  d.make directory p .pipe mode

/-- Gives the node of an entry one more name. -/
def makeName (d : Disk) (directory : Place) (p : Path) (entry : Entry) : Except Fault Disk :=
  match d.freePlace directory p with
  | .ok place => .ok (d.attach place entry)
  | .error fault => .error fault

/-! ### Writing -/

/-- Writes what lies at a taken place from what it held before. -/
def updateEntry (d : Disk) (entry : Entry) (change : ByteArray → ByteArray) : Except Fault Disk :=
  match entry.node with
  | .directory => .error (.system .isDirectory)
  | .link _ => .error (.system .tooManyLinks)
  | node =>
    if entry.mode.isWritable then
      match node with
      | .file content => .ok (d.rewrite entry.id (change content))
      | .device .full =>
        if (change ByteArray.empty).isEmpty then .ok d else .error (.system .noSpace)
      | _ => .ok d
    else .error (.system .accessDenied)

/-- Writes a file from what it held before, nothing if it is new. A new file has the given mode. -/
def updateFile (d : Disk) (directory : Place) (p : Path) (mode : Mode)
    (change : ByteArray → ByteArray) : Except Fault Disk :=
  match d.locate directory true p with
  | .ok (.free parent name) =>
    if d.mayChange parent then
      .ok (d.add (parent ++ [name]) (.file (change ByteArray.empty)) mode)
    else .error (.system .accessDenied)
  | .ok (.taken place _) =>
    match d.entry? place with
    | some entry => d.updateEntry entry change
    | none => .error (.system .isDirectory)
  | .error fault => .error fault

/-- Writes a file, over what it held before. -/
def writeFile (d : Disk) (directory : Place) (p : Path) (content : ByteArray) :
    Except Fault Disk :=
  d.updateFile directory p Mode.file fun _ => content

/-- Sets the mode of what a path leads to. -/
def setMode (d : Disk) (directory : Place) (p : Path) (mode : Mode) : Except Fault Disk :=
  match d.locateEntry directory true p with
  | .ok (_, entry) => .ok (d.change entry.id fun e => { e with mode := mode })
  | .error fault => .error fault

/-! ### Removing and moving -/

/-- Removes a directory with everything below it, or a link. -/
def removeTree (d : Disk) (directory : Place) (p : Path) : Except Fault Disk :=
  match d.locateNode directory false p with
  | .ok (place, .directory) => .ok (d.cut place)
  | .ok (place, .link _) => .ok (d.cut place)
  | .ok _ => .error (.system .notDirectory)
  | .error fault => .error fault

/-- Removes anything but a directory. -/
def removeEntry (d : Disk) (directory : Place) (p : Path) : Except Fault Disk :=
  match d.locateNode directory false p with
  | .ok (_, .directory) => .error (.system .isDirectory)
  | .ok (place, _) => .ok (d.cut place)
  | .error fault => .error fault

/-- Removes whatever is there, a directory with everything below it. -/
def removeAny (d : Disk) (directory : Place) (p : Path) : Except Fault Disk :=
  match d.locateNode directory false p with
  | .ok (place, _) => .ok (d.cut place)
  | .error fault => .error fault

/-- Whether a node may be moved over another one. -/
def mayReplace (d : Disk) (node : Node) (place : Place) (old : Node) : Except Fault Unit :=
  match node, old with
  | .directory, .directory =>
    if (d.children place).isEmpty then .ok () else .error (.system .notEmpty)
  | .directory, _ => .error (.system .notDirectory)
  | _, .directory => .error (.system .isDirectory)
  | _, _ => .ok ()

/-- Whether the same node is at two places. -/
def isSameNode (d : Disk) (a b : Place) : Bool :=
  (d.entry? a).any fun e => (d.entry? b).any fun f => e.id == f.id

/-- Moves a node to another path, over what may be replaced there. -/
def move (d : Disk) (directory : Place) (source target : Path) : Except Fault Disk :=
  match d.locateNode directory false source with
  | .error fault => .error fault
  | .ok (place, node) =>
    match d.locate directory false target with
    | .error fault => .error fault
    | .ok (.free parent name) =>
      if place.isPrefixOf parent then .error (.system .invalidArgument)
      else .ok (d.moveTree place (parent ++ [name]))
    | .ok (.taken other old) =>
      if place = other || d.isSameNode place other then .ok d
      else if place.isPrefixOf other then .error (.system .invalidArgument)
      else
        match d.mayReplace node other old with
        | .ok () => .ok (d.moveTree place other)
        | .error fault => .error fault

end SnippetForge.Disk
