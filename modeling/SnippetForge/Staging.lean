import SnippetForge.Disk.Edit
import SnippetForge.Failure
import SnippetForge.Language
import SnippetForge.Log

/-!
# Staging areas

A staging area is a directory of its own for one compilation. Its name is a fixed beginning and a
random part. The directory is made exclusively, so a name that is taken is never used; another
name is tried instead. Its path is absolute and free of links, because the directory above it is
resolved first.

An area is closed by removing its directory with everything in it. Links in it are removed as
links. Closing reports what goes wrong; dropping an area does the same and keeps silent.
-/

namespace SnippetForge

/-- A directory for one compilation. -/
structure StagingArea where
  path : Path
  deriving DecidableEq, Repr

namespace StagingArea

/-! ### Paths -/

/-- The beginning of the name of every staging directory. -/
def nameStart : String := "codeblock-"

/-- The name of the directory that bundles are written into. -/
def outputName : String := "dist"

/-- The name of a bundle. -/
def bundleName : String := "bundle.js"

/-- The name of a staging directory with a random part. -/
def directoryName (random : String) : String :=
  nameStart ++ random

/-- The area below a place with a random part. -/
def below (parent : Place) (random : String) : StagingArea :=
  ⟨parent.path.child (directoryName random)⟩

/-- The directory that bundles are written into. -/
def outputDirectory (a : StagingArea) : Path :=
  a.path.child outputName

/-- Where the bundle is expected. -/
def bundlePath (a : StagingArea) : Path :=
  a.outputDirectory.child bundleName

/-- Where the entry file is written. -/
def entryPath (a : StagingArea) (e : EntryExtension) : Path :=
  a.path.child e.fileName

/-! ### Making an area -/

/-- How many names are tried for one area. -/
def maxTries : Nat := 65536

/-- What came of trying one name. -/
inductive Attempt
  /-- The directory has been made. -/
  | made (area : StagingArea) (disk : Disk)
  /-- The name is taken. -/
  | taken
  /-- The directory cannot be made. -/
  | failed (fault : Fault)

/-- Tries to make the area of one name. -/
def attempt (d : Disk) (cwd parent : Place) (random : String) : Attempt :=
  let area := below parent random
  match d.makeDirectory cwd area.path Mode.secluded with
  | .ok disk => .made area disk
  | .error (.system .exists) => .taken
  | .error fault => .failed (.at area.path fault)

/-- The place that areas of a staging root are made in. -/
def parentOf (d : Disk) (cwd : Place) (root : Path) : Except Failure Place :=
  match d.canonical cwd root with
  | .ok place => .ok place
  | .error fault => .error (.staging root fault)

/-- The fault after too many names have been tried. -/
def exhausted (parent : Place) : Fault :=
  .at parent.path (.plain .alreadyExists (some "too many temporary files exist"))

/-- Tries names until one is free. Gives the number of names used too. -/
def search (d : Disk) (cwd parent : Place) (names : Nat → String) :
    (tries drawn : Nat) → Nat × Except Fault (StagingArea × Disk)
  | 0, drawn => (drawn, .error (exhausted parent))
  | tries + 1, drawn =>
    match attempt d cwd parent (names drawn) with
    | .made area disk => (drawn + 1, .ok (area, disk))
    | .taken => search d cwd parent names tries (drawn + 1)
    | .failed fault => (drawn + 1, .error fault)

/-- The report that an area has been made. -/
def createdLine (a : StagingArea) : LogLine :=
  .debug ("Created staging area " ++ a.path.text)

/-- Makes an area in a staging root. Gives the number of names used too. -/
def create (d : Disk) (cwd : Place) (root : Path) (names : Nat → String) (drawn : Nat) :
    Nat × Except Failure (StagingArea × Disk) :=
  match parentOf d cwd root with
  | .error failure => (drawn, .error failure)
  | .ok parent =>
    match search d cwd parent names maxTries drawn with
    | (drawn, .ok made) => (drawn, .ok made)
    | (drawn, .error fault) => (drawn, .error (.staging root fault))

/-! ### Using and closing an area -/

/-- Writes the entry file. -/
def writeEntry (a : StagingArea) (d : Disk) (cwd : Place) (e : EntryExtension) (source : String) :
    Except Failure (Path × Disk) :=
  match d.writeFile cwd (a.entryPath e) source.toUTF8 with
  | .ok disk => .ok (a.entryPath e, disk)
  | .error fault => .error (.staging (a.entryPath e) fault)

/-- The report that an area has been removed. -/
def removedLine (a : StagingArea) : LogLine :=
  .debug ("Removed staging area " ++ a.path.text)

/-- Removes an area. -/
def close (a : StagingArea) (d : Disk) (cwd : Place) : Except Failure Disk :=
  match d.removeTree cwd a.path with
  | .ok disk => .ok disk
  | .error fault => .error (.cleanup a.path (.at a.path fault))

/-- Removes an area and keeps silent about what goes wrong. -/
def drop (a : StagingArea) (d : Disk) (cwd : Place) : Disk :=
  match a.close d cwd with
  | .ok disk => disk
  | .error _ => d

/-! ### Names -/

/-- The characters of random parts. -/
def nameCharacters : List Char :=
  "abcdefghijklmnopqrstuvwxyzABCDEFGHIJKLMNOPQRSTUVWXYZ0123456789".toList

/-- Some characters that spell a number, lowest place first. -/
def spell : (width n : Nat) → List Char
  | 0, _ => []
  | width + 1, n =>
    (nameCharacters[n % nameCharacters.length]?).getD 'a' :: spell width (n / nameCharacters.length)

/-- A supply of random parts of six characters in which the first billions are different. -/
def countedNames (n : Nat) : String :=
  String.ofList (spell 6 n)

end StagingArea

end SnippetForge
