import SnippetForge.Disk.Edit

/-!
# The disk of a system

What a disk holds before anything is put on it: the programs of the system, the devices, and the
directories around them. A program of the system is a file that no text can be mistaken for; its
bytes tell which program it is, so a link to it or a copy of it is the same program.
-/

namespace SnippetForge.Disk

/-- The mark in front of the name of a program of the system. -/
def programMark : ByteArray :=
  ⟨#[127, 69, 76, 70]⟩

/-- The bytes of a program of the system. -/
def programBytes (name : String) : ByteArray :=
  programMark ++ name.toUTF8

/-- The program of the system that some bytes are. -/
def programName? (bytes : ByteArray) : Option String :=
  if bytes.extract 0 programMark.size = programMark then
    String.fromUTF8? (bytes.extract programMark.size bytes.size)
  else none

/-- The directory that holds the programs of the system. -/
def programPlace : Place := ["usr", "bin"]

/-- The directories of a system. -/
def systemDirectories : List (Place × Node × Mode) :=
  let plain := [["usr"], programPlace, ["usr", "local"], ["usr", "local", "bin"], ["dev"],
    Place.running, Place.running ++ ["self"], Place.running ++ ["self", "fd"], ["etc"], ["home"]]
  plain.map (fun place => (place, Node.directory, Mode.directory))
    ++ [(["tmp"], .directory, Mode.unrestricted + 512), (["root"], .directory, Mode.secluded)]

/-- The devices of a system, and the names for what a program reads from and writes to. A program
reads nothing if nobody says otherwise. -/
def systemDevices : List (Place × Node × Mode) :=
  let device (name : String) (d : Device) : Place × Node × Mode :=
    (["dev", name], .device d, Mode.shared)
  let link (place : Place) (target : String) : Place × Node × Mode :=
    (place, .link ⟨target⟩, Mode.unrestricted)
  let descriptor (name : String) : Place := Place.running ++ ["self", "fd", name]
  [device "null" .null, device "zero" .zero, device "full" .full,
    link ["dev", "fd"] "/proc/self/fd", link ["dev", "stdin"] "/proc/self/fd/0",
    link ["dev", "stdout"] "/proc/self/fd/1", link ["dev", "stderr"] "/proc/self/fd/2",
    link (descriptor "0") "/dev/null", (descriptor "1", .pipe, Mode.file),
    (descriptor "2", .pipe, Mode.file)]

/-- The time at which a system starts, in nanoseconds since the first day of 1970. -/
def bootTime : Nat := 1767225600003000000

/-- The disk of a system with some programs. -/
def ofSystem (programs : List String) : Disk :=
  let files : List (Place × Node × Mode) :=
    programs.map fun name => (programPlace ++ [name], .file (programBytes name), Mode.directory)
  let nodes := systemDirectories ++ [(["bin"], .link ⟨"usr/bin"⟩, Mode.unrestricted)]
    ++ systemDevices ++ files
  nodes.foldl (fun d e => d.add e.1 e.2.1 e.2.2) { empty with now := bootTime }

end SnippetForge.Disk
