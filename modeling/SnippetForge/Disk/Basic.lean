import SnippetForge.Path

/-!
# Disks

A disk is a finite map from places to entries. A *place* is the list of names on the way from the
root; it is physical, that is, no name in it is a link, `.` or `..`. The root is always a directory
and has no entry of its own. An entry is a node with what is known about it besides: who may do what
with it, when it was written, and the number that stays the same when it moves. A node is a
directory, a file with its bytes, a link with the path it points to, a named pipe or a device. A
file that has several names has an entry with the same number under each of them.

Everything below a place shares that place as an initial part. Cutting a place out therefore drops
exactly the entries at it and below it, and leaves all others, in their order, as they are.
-/

namespace SnippetForge

/-- The names on the way from the root. -/
abbrev Place := List String

namespace Place

/-- The absolute path of a place. -/
def path (place : Place) : Path :=
  ⟨"/" ++ String.intercalate "/" place⟩

/-- The directory that shows what runs. Its names come and go with what runs, and nothing else can
be made in it. -/
def running : Place := ["proc"]

/-- The name that stands for a directory that is gone. No entry has it, because no name has a slash
in it. -/
def lostName (name : String) : String :=
  name ++ "/"

end Place

/-- Bytes are compared by their values. -/
instance decidableEqBytes : DecidableEq ByteArray :=
  ByteArray.instDecidableEq

/-- What reads and writes bytes without keeping them. -/
inductive Device
  /-- Takes everything and gives nothing. -/
  | null
  /-- Takes everything and gives zeros without end. -/
  | zero
  /-- Has no room for anything and gives zeros without end. -/
  | full
  deriving DecidableEq, Repr

/-- What lies at a place. -/
inductive Node
  | directory
  | file (content : ByteArray)
  | link (target : Path)
  | pipe
  | device (d : Device)
  deriving DecidableEq

/-- Whether a node is a regular file. -/
def Node.isFile : Node → Bool
  | .file _ => true
  | _ => false

/-- Whether a node is a link. -/
def Node.isLink : Node → Bool
  | .link _ => true
  | _ => false

/-! ### Modes -/

/-- What the owner, the group and all others may do, bit by bit, with the three bits above them. -/
abbrev Mode := Nat

namespace Mode

/-- The mode of a file: read by all and written by its owner. -/
def file : Mode := 420

/-- The mode of a directory or of a file that can be executed. -/
def directory : Mode := 493

/-- The mode of a directory of which only its owner can make use. -/
def secluded : Mode := 448

/-- The mode of a file that only its owner can read and write. -/
def secret : Mode := 384

/-- The mode of what everybody may read and write. -/
def shared : Mode := 438

/-- The mode of what everybody may read, write and execute. -/
def unrestricted : Mode := 511

/-- Whether the owner may read. -/
def isReadable (m : Mode) : Bool :=
  m.testBit 8

/-- Whether the owner may write. -/
def isWritable (m : Mode) : Bool :=
  m.testBit 7

/-- Whether the owner may execute a file or look names up in a directory. -/
def isExecutable (m : Mode) : Bool :=
  m.testBit 6

/-- Whether anybody may execute a file. -/
def isExecutableByAny (m : Mode) : Bool :=
  m.testBit 6 || m.testBit 3 || m.testBit 0

/-- A mode without some bits. -/
def without (m mask : Mode) : Mode :=
  m - Nat.land m mask

end Mode

/-! ### Entries -/

/-- A node with what is known about it besides. -/
structure Entry where
  node : Node
  /-- The number of the node. It has no other, and no other node has it. -/
  id : Nat
  mode : Mode
  /-- When the node was written last, in nanoseconds. -/
  time : Nat
  deriving DecidableEq

/-- The root. -/
def Entry.root : Entry :=
  ⟨.directory, 0, Mode.directory, 0⟩

/-- A tree of files. -/
structure Disk where
  entries : List (Place × Entry)
  /-- The number of the next new node. -/
  nextId : Nat
  /-- The time at which what is written now counts as written. -/
  now : Nat
  deriving DecidableEq

namespace Disk

/-- The disk that holds nothing. -/
def empty : Disk := ⟨[], 1, 0⟩

/-- The entry at a place. -/
def entry? (d : Disk) (place : Place) : Option Entry :=
  if place = [] then some .root else d.entries.lookup place

/-- The node at a place. -/
def node? (d : Disk) (place : Place) : Option Node :=
  (d.entry? place).map (·.node)

/-- A place of the node with a number. -/
def placeOf? (d : Disk) (id : Nat) : Option Place :=
  if id = Entry.root.id then some [] else (d.entries.find? fun e => e.2.id == id).map (·.1)

/-- The bytes of the file with a number. -/
def contentOf? (d : Disk) (id : Nat) : Option ByteArray :=
  match d.entries.find? fun e => e.2.id == id with
  | some (_, ⟨.file content, _, _, _⟩) => some content
  | _ => none

/-! ### Changes -/

/-- How finely the time of writing is told. -/
def grain : Nat := 4000000

/-- The time that counts as the time of writing now. -/
def stamp (d : Disk) : Nat :=
  d.now / grain * grain

/-- Puts a new node at a free place. -/
def add (d : Disk) (place : Place) (node : Node) (mode : Mode) : Disk :=
  { d with
    entries := d.entries ++ [(place, ⟨node, d.nextId, mode, d.stamp⟩)], nextId := d.nextId + 1 }

/-- Gives a node one more name, at a free place. -/
def attach (d : Disk) (place : Place) (entry : Entry) : Disk :=
  { d with entries := d.entries ++ [(place, entry)] }

/-- Changes the entries of the node with a number, under all its names. -/
def change (d : Disk) (id : Nat) (f : Entry → Entry) : Disk :=
  { d with entries := d.entries.map fun e => if e.2.id = id then (e.1, f e.2) else e }

/-- Puts other bytes into the file with a number. -/
def rewrite (d : Disk) (id : Nat) (content : ByteArray) : Disk :=
  d.change id fun e => { e with node := .file content, time := d.stamp }

/-- Drops the entries at a place and below it. -/
def cut (d : Disk) (place : Place) : Disk :=
  { d with entries := d.entries.filter fun e => !place.isPrefixOf e.1 }

/-- The place that something at `q` moves to when `source` becomes `target`. -/
def movedPlace (source target q : Place) : Place :=
  if source.isPrefixOf q then target ++ q.drop source.length else q

/-- Moves everything at and below `source` to `target`, over what is there. -/
def moveTree (d : Disk) (source target : Place) : Disk :=
  { d with
    entries := (d.cut target).entries.map fun e => (movedPlace source target e.1, e.2) }

/-! ### What is in a directory -/

/-- The name and node of an entry that lies directly in a directory. -/
def childOf? (directory : Place) (e : Place × Entry) : Option (String × Node) :=
  match e.1.getLast? with
  | some name => if e.1 = directory ++ [name] then some (name, e.2.node) else none
  | none => none

/-- The entries directly in a directory. -/
def children (d : Disk) (directory : Place) : List (String × Node) :=
  d.entries.filterMap (childOf? directory)

/-- Whether one name comes before another, by their bytes. -/
def nameLe (a b : String) : Bool :=
  !decide (b < a)

/-- The entries directly in a directory, by name. -/
def sortedChildren (d : Disk) (directory : Place) : List (String × Node) :=
  (d.children directory).mergeSort fun a b => nameLe a.1 b.1

/-- Whether something may be made in a directory. -/
def mayChange (d : Disk) (directory : Place) : Bool :=
  (d.entry? directory).any fun e => e.mode.isWritable && e.mode.isExecutable

/-! ### Keeping a directory -/

/-- Where a directory lies after a change of the disk. `names` are those on the way to it, the last
one first. One that is gone is at a place that no entry can have. -/
def followNames (old new : Disk) : (names : List String) → Place
  | [] => []
  | name :: above =>
    let lost := followNames old new above ++ [Place.lostName name]
    match old.entry? (above.reverse ++ [name]) with
    | some e => (new.placeOf? e.id).getD lost
    | none => followNames old new above ++ [name]

/-- Where a directory lies after a change of the disk. -/
def follow (old new : Disk) (directory : Place) : Place :=
  followNames old new directory.reverse

@[simp]
theorem node?_root (d : Disk) : d.node? [] = some .directory := rfl

end Disk

end SnippetForge
