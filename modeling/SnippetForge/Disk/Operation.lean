import SnippetForge.Disk.Edit
import SnippetForge.Json.Record
import SnippetForge.Text.Hex

/-!
# File operations as data

An operation on files, written down. A list of operations describes how a tree of files comes
about, and what a toolchain does to the files it is given is such a list too. Paths are relative
to a base directory; the empty path is the base itself. Writing, making and moving create the
directories they need. An operation that fails has no effect.

Operations have a JSON form: an object whose member `op` names the operation.
-/

namespace SnippetForge

/-- An operation on files. -/
inductive FileOperation
  | write (path : Path) (content : ByteArray) (executable : Bool)
  | directory (path : Path)
  | link (path target : Path)
  | pipe (path : Path)
  | move (source target : Path)
  | remove (path : Path)
  deriving DecidableEq

namespace FileOperation

/-- The path of an operation, seen from where its base lies. -/
def under (base p : Path) : Path :=
  if p.text = "" then base else base.join p

/-- Makes the directories above a path. -/
def makeParents (d : Disk) (cwd : Place) (p : Path) : Except Fault Disk :=
  match p.parent? with
  | some above => d.makeDirectories cwd above
  | none => .ok d

/-- Runs an operation below a base directory. -/
def run? (d : Disk) (cwd : Place) (base : Path) : FileOperation → Except Fault Disk
  | .write p content executable =>
    let path := under base p
    match makeParents d cwd path with
    | .error fault => .error fault
    | .ok d =>
      match d.writeFile cwd path content with
      | .error fault => .error fault
      | .ok d => d.setMode cwd path (if executable then Mode.directory else Mode.file)
  | .directory p => d.makeDirectories cwd (under base p)
  | .link p target =>
    let path := under base p
    match makeParents d cwd path with
    | .error fault => .error fault
    | .ok d => d.makeLink cwd path target
  | .pipe p =>
    let path := under base p
    match makeParents d cwd path with
    | .error fault => .error fault
    | .ok d => d.makePipe cwd path Mode.file
  | .move source target =>
    match makeParents d cwd (under base target) with
    | .error fault => .error fault
    | .ok d => d.move cwd (under base source) (under base target)
  | .remove p => d.removeAny cwd (under base p)

/-- The disk after an operation. -/
def apply (d : Disk) (cwd : Place) (base : Path) (operation : FileOperation) : Disk :=
  match run? d cwd base operation with
  | .ok changed => changed
  | .error _ => d

/-! ### The JSON form -/

/-- The bytes that pairs of hexadecimal digits spell. -/
def bytesOfHex : List Char → (done : List UInt8) → List UInt8
  | a :: b :: rest, done =>
    match Text.hexValue? a, Text.hexValue? b with
    | some a, some b => bytesOfHex rest (UInt8.ofNat (a * 16 + b) :: done)
    | _, _ => done.reverse
  | _, done => done.reverse

/-- Some bytes over and over. -/
def repeated (bytes : ByteArray) : (times : Nat) → (done : ByteArray) → ByteArray
  | 0, done => done
  | times + 1, done => repeated bytes times (done ++ bytes)

/-- The member of an object under a name. -/
def member? (v : Json) (name : String) : Option Json :=
  match v with
  | .object members => (members.find? fun m => m.1 == .text name).map (·.2)
  | _ => none

/-- The text under a name, empty if there is none. -/
def textMember (v : Json) (name : String) : String :=
  ((member? v name).bind Json.text?).getD ""

/-- The number under a name. -/
def numberMember? (v : Json) (name : String) : Option Nat :=
  match member? v name with
  | some (.number digits) => digits.toNat?
  | _ => none

/-- The bytes that an operation writes. -/
def contentMember (v : Json) : ByteArray :=
  let once : ByteArray :=
    match (member? v "hex").bind Json.text? with
    | some digits => ⟨(bytesOfHex digits.toList []).toArray⟩
    | none => (textMember v "text").toUTF8
  match numberMember? v "repeat" with
  | some times => repeated once times ByteArray.empty
  | none => once

/-- The operation that a JSON value describes. -/
def ofJson? (v : Json) : Option FileOperation :=
  let path : Path := ⟨textMember v "path"⟩
  match (member? v "op").bind Json.text? with
  | some "write" =>
    match member? v "exec" with
    | some (.bool executable) => some (.write path (contentMember v) executable)
    | _ => some (.write path (contentMember v) false)
  | some "mkdir" => some (.directory path)
  | some "link" => some (.link path ⟨textMember v "to"⟩)
  | some "fifo" => some (.pipe path)
  | some "rename" => some (.move path ⟨textMember v "to"⟩)
  | some "remove" => some (.remove path)
  | _ => none

end FileOperation

end SnippetForge
