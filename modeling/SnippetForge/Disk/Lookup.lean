import SnippetForge.Disk.Basic
import SnippetForge.Fault

/-!
# Following paths

A path is followed name by name from a directory. `.` stays, `..` goes up, and a link is replaced
by the path it points to, counted from the root or from the directory that holds the link. A link
in last position is followed or not, as the caller asks. At most forty links are followed. In a
directory that is gone there is nothing, and nothing can be made.

The walk along names is structural and stops at a link; a second function goes on from there and
counts. What a path leads to is then either a node or a free name in an existing directory, which
is where a new node can be made.
-/

namespace SnippetForge.Disk

/-! ### Walking along names -/

/-- The longest name, in bytes. -/
def maxName : Nat := 255

/-- The longest path, in bytes. -/
def maxPath : Nat := 4095

/-- How many links are followed at most. -/
def maxLinks : Nat := 40

/-- The names of a path to walk along. A slash at the end asks for a directory, as a final `.`
does. -/
def walkNames (p : Path) : List String :=
  let names := p.segments.filter (· != "")
  if Path.endsWithSlash p.text then names ++ ["."] else names

/-- Where a walk along names stops. -/
inductive Stop
  /-- At a node. -/
  | found (place : Place) (node : Node)
  /-- At a name that a directory does not hold. -/
  | free (directory : Place) (name : String)
  /-- At a link: the walk goes on from a directory along other names. -/
  | goOn (directory : Place) (names : List String)
  /-- At an error. -/
  | failed (error : SystemError)

/-- Walks along names from a node to the end or to a link that has to be followed. -/
def walk (d : Disk) (followLast : Bool) (place : Place) (node : Node) : List String → Stop
  | [] => .found place node
  | name :: rest =>
    match node with
    | .directory =>
      if name = "." then walk d followLast place .directory rest
      else if name = ".." then walk d followLast place.dropLast .directory rest
      else if maxName < name.utf8ByteSize then .failed .nameTooLong
      else
        match d.node? (place ++ [name]) with
        | none =>
          if rest.isEmpty && (d.node? place).isSome && !Place.running.isPrefixOf place then
            .free place name
          else .failed .noEntry
        | some (.link target) =>
          if rest.isEmpty && !followLast then .found (place ++ [name]) (.link target)
          else .goOn (if target.isAbsolute then [] else place) (walkNames target ++ rest)
        | some node => walk d followLast (place ++ [name]) node rest
    | _ => .failed .notDirectory

/-! ### Following links -/

/-- What a path leads to. -/
inductive Spot
  /-- A node. -/
  | taken (place : Place) (node : Node)
  /-- A free name in a directory. -/
  | free (directory : Place) (name : String)

/-- Goes on from where a walk stopped, following at most `links` links. -/
def settle (d : Disk) (followLast : Bool) : (links : Nat) → Stop → Except SystemError Spot
  | _, .found place node => .ok (.taken place node)
  | _, .free directory name => .ok (.free directory name)
  | _, .failed error => .error error
  | 0, .goOn _ _ => .error .tooManyLinks
  | links + 1, .goOn directory names =>
    settle d followLast links (walk d followLast directory .directory names)

/-- Where a path starts, seen from a directory. -/
def startOf (directory : Place) (p : Path) : Place :=
  if p.isAbsolute then [] else directory

/-- What a path leads to, seen from a directory. -/
def locate (d : Disk) (directory : Place) (followLast : Bool) (p : Path) : Except Fault Spot :=
  if p.text.toList.contains (Char.ofNat 0) then .error .nulInPath
  else if p.text = "" then .error (.system .noEntry)
  else if maxPath < p.text.utf8ByteSize then .error (.system .nameTooLong)
  else
    match settle d followLast maxLinks
        (walk d followLast (startOf directory p) .directory (walkNames p)) with
    | .ok spot => .ok spot
    | .error error => .error (.system error)

/-- The node a path leads to, with its place. A free name is an error here. -/
def locateNode (d : Disk) (directory : Place) (followLast : Bool) (p : Path) :
    Except Fault (Place × Node) :=
  match d.locate directory followLast p with
  | .ok (.taken place node) => .ok (place, node)
  | .ok (.free _ _) => .error (.system .noEntry)
  | .error fault => .error fault

/-- The entry of the node a path leads to, with its place. A directory that is gone has one like
the root. -/
def locateEntry (d : Disk) (directory : Place) (followLast : Bool) (p : Path) :
    Except Fault (Place × Entry) :=
  match d.locateNode directory followLast p with
  | .ok (place, _) => .ok (place, (d.entry? place).getD .root)
  | .error fault => .error fault

/-! ### Questions about a path -/

/-- The entry of the node a path leads to, links followed. -/
def targetEntry? (d : Disk) (directory : Place) (p : Path) : Option Entry :=
  match d.locateEntry directory true p with
  | .ok (_, entry) => some entry
  | .error _ => none

/-- The node a path leads to, links followed. -/
def target? (d : Disk) (directory : Place) (p : Path) : Option Node :=
  match d.locateNode directory true p with
  | .ok (_, node) => some node
  | .error _ => none

/-- The node a path leads to, a last link not followed. -/
def linkOrNode? (d : Disk) (directory : Place) (p : Path) : Option Node :=
  match d.locateNode directory false p with
  | .ok (_, node) => some node
  | .error _ => none

/-- Whether a path leads to anything. -/
def holds (d : Disk) (directory : Place) (p : Path) : Bool :=
  (d.target? directory p).isSome

/-- Whether a path leads to a directory. -/
def isDirectory (d : Disk) (directory : Place) (p : Path) : Bool :=
  match d.target? directory p with
  | some .directory => true
  | _ => false

/-- Whether a path leads to a regular file. -/
def isFile (d : Disk) (directory : Place) (p : Path) : Bool :=
  match d.target? directory p with
  | some (.file _) => true
  | _ => false

/-- Whether a path leads to a regular file that may be executed. -/
def isExecutable (d : Disk) (directory : Place) (p : Path) : Bool :=
  (d.targetEntry? directory p).any fun e => e.node.isFile && e.mode.isExecutableByAny

/-- The place that a path means, all links resolved. Its own path has to be short enough too, and a
relative path has to start somewhere. -/
def canonical (d : Disk) (directory : Place) (p : Path) : Except Fault Place :=
  match d.locateNode directory true p with
  | .ok (place, _) =>
    if maxPath < place.path.text.utf8ByteSize then .error (.system .nameTooLong)
    else if !p.isAbsolute && (d.node? directory).isNone then .error (.system .noEntry)
    else .ok place
  | .error fault => .error fault

/-! ### Reading -/

/-- The text that bytes encode. -/
def textOf (bytes : ByteArray) : Except Fault String :=
  match String.fromUTF8? bytes with
  | some s => .ok s
  | none => .error .notText

/-- The bytes of a file. A named pipe that nobody writes to holds none, and those that a device
gives are not part of the disk. -/
def readBytes (d : Disk) (directory : Place) (p : Path) : Except Fault ByteArray :=
  match d.locateEntry directory true p with
  | .error fault => .error fault
  | .ok (_, entry) =>
    if entry.mode.isReadable then
      match entry.node with
      | .file content => .ok content
      | .pipe => .ok ByteArray.empty
      | .device _ => .ok ByteArray.empty
      | .directory => .error (.system .isDirectory)
      | .link _ => .error (.system .tooManyLinks)
    else .error (.system .accessDenied)

/-- The text of a file. -/
def readText (d : Disk) (directory : Place) (p : Path) : Except Fault String :=
  match d.readBytes directory p with
  | .ok bytes => textOf bytes
  | .error fault => .error fault

/-- Whether the entries of a directory may be shown. One that is gone shows none. -/
def mayList (d : Disk) (directory : Place) : Bool :=
  (d.entry? directory).all fun e => e.mode.isReadable

/-- The entries of a directory, by name. -/
def list (d : Disk) (directory : Place) (p : Path) : Except Fault (List (String × Node)) :=
  match d.locateNode directory true p with
  | .ok (place, .directory) =>
    if d.mayList place then .ok (d.sortedChildren place) else .error (.system .accessDenied)
  | .ok _ => .error (.system .notDirectory)
  | .error fault => .error fault

end SnippetForge.Disk
