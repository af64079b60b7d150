import SnippetForge.Disk.Lookup
import SnippetForge.Failure
import SnippetForge.Log
import SnippetForge.Manifest
import SnippetForge.Snippet

/-!
# Discovery of module files

Discovery turns the imports of snippets into manifest entries. An import names a directory below
the package root. Its files are collected by walking that directory: entries in the order of their
names, names that start with a dot left out, links to directories not entered. A walk gives the
regular files whose names end in a suffix, a link to a regular file included.

An import is read in four steps: the declaration files are collected and read, then the
implementation files. The first thing that fails is the failure of the import. Likewise the
failure of the whole resolution is that of the first import that fails; nothing is handed out in
part.
-/

namespace SnippetForge

/-- Where packages lie and whether an import may have more than one entry. -/
structure ResolverSettings where
  packageRoot : Path
  dedupe : Bool
  deriving DecidableEq, Repr

/-- Packages in `node_modules`, one entry for every import of every snippet. -/
def ResolverSettings.standard : ResolverSettings :=
  ⟨⟨"node_modules"⟩, false⟩

namespace Discovery

/-! ### Collecting files -/

/-- The end of the name of a declaration file. -/
def declarationSuffix : String := ".d.ts"

/-- The end of the name of an implementation file. -/
def implementationSuffix : String := ".js"

/-- Whether a walk leaves a name out. -/
def isHidden (name : String) : Bool :=
  match name.toList with
  | '.' :: _ => true
  | _ => false

/-- Whether a name has a suffix. -/
def hasSuffix (suffix name : String) : Bool :=
  suffix.toList.isSuffixOf name.toList

/-- Runs a step on every element and strings the lists together, up to the first failure. -/
def collectAll {α β : Type} (step : α → Except Failure (List β)) :
    List α → Except Failure (List β)
  | [] => .ok []
  | a :: rest =>
    match step a with
    | .error failure => .error failure
    | .ok found =>
      match collectAll step rest with
      | .error failure => .error failure
      | .ok more => .ok (found ++ more)

/-- What a walk collects at an entry of a directory. `enter` walks a directory. -/
def visit (d : Disk) (cwd : Place) (suffix : String) (enter : Path → Except Failure (List Path))
    (directory : Path) (entry : String × Node) : Except Failure (List Path) :=
  let path := directory.child entry.1
  if isHidden entry.1 then .ok []
  else
    match entry.2 with
    | .directory => enter path
    | _ => if hasSuffix suffix entry.1 && d.isFile cwd path then .ok [path] else .ok []

/-- Collects the files below a directory, at most `fuel` levels deep. -/
def walk (d : Disk) (cwd : Place) (suffix : String) : (fuel : Nat) → Path →
    Except Failure (List Path)
  | 0, _ => .ok []
  | fuel + 1, directory =>
    match d.list cwd directory with
    | .error fault => .error (.discovery directory (.onEntry directory fault))
    | .ok entries => collectAll (visit d cwd suffix (walk d cwd suffix fuel) directory) entries

/-- How many names the longest place of a disk has. -/
def depth (d : Disk) : Nat :=
  d.entries.foldl (fun n e => max n e.1.length) 0

/-- The files below a directory whose names end in a suffix; none if it is no directory. -/
def findFiles (d : Disk) (cwd : Place) (suffix : String) (directory : Path) :
    Except Failure (List Path) :=
  if d.isDirectory cwd directory then walk d cwd suffix (depth d + 1) directory else .ok []

/-! ### Reading files -/

/-- Reads a file of a package. -/
def readSource (d : Disk) (cwd : Place) (path : Path) : Except Failure SourceFile :=
  match d.readText cwd path with
  | .ok content => .ok ⟨path.text, content⟩
  | .error fault => .error (.discovery path fault)

/-- Reads files in order, up to the first failure. -/
def readSources (d : Disk) (cwd : Place) (paths : List Path) : Except Failure (List SourceFile) :=
  collectAll (fun path => (readSource d cwd path).map fun f => [f]) paths

/-- Collects and reads the files of a directory whose names end in a suffix. -/
def sources (d : Disk) (cwd : Place) (suffix : String) (directory : Path) :
    Except Failure (List SourceFile) :=
  match findFiles d cwd suffix directory with
  | .ok paths => readSources d cwd paths
  | .error failure => .error failure

/-! ### Resolving imports -/

/-- The directory of an import below the package root. A name that is empty or would leave the
root has none. -/
def moduleDirectory? (root : Path) (name : String) : Option Path :=
  if name ≠ "" ∧ (Path.mk name).isPlain then some (root.join ⟨name⟩) else none

/-- What a step of discovery reports and gives. -/
abbrev Outcome (α : Type) := List LogLine × Except Failure α

/-- The declaration and the implementation files of a module. -/
def moduleFiles (d : Disk) (cwd : Place) (directory : Path) :
    Except Failure (List SourceFile × List SourceFile) :=
  match sources d cwd declarationSuffix directory with
  | .error failure => .error failure
  | .ok declarations =>
    match sources d cwd implementationSuffix directory with
    | .error failure => .error failure
    | .ok impls => .ok (declarations, impls)

/-- The report on the files of an import. -/
def importLine (name : String) (declarations impls : List SourceFile) : LogLine :=
  .debug ("Import '" ++ name ++ "': " ++ toString declarations.length ++ " declaration files, "
    ++ toString impls.length ++ " implementation files")

/-- Resolves one import. -/
def resolveImport (d : Disk) (cwd : Place) (root : Path) (name : String) :
    Outcome (Option ManifestEntry) :=
  match moduleDirectory? root name with
  | none => ([.debug ("Skipping import with non-package name: " ++ name)], .ok none)
  | some directory =>
    match moduleFiles d cwd directory with
    | .error failure => ([], .error failure)
    | .ok (declarations, impls) =>
      ([importLine name declarations impls],
        .ok (ManifestEntry.ofFiles? name declarations impls))

/-- Resolves imports in order. `found` holds the entries so far, last first. -/
def resolveNames (d : Disk) (cwd : Place) (settings : ResolverSettings) :
    List String → (found : List ManifestEntry) → Outcome (List ManifestEntry)
  | [], found => ([], .ok found.reverse)
  | name :: rest, found =>
    if settings.dedupe && found.any (·.name == name) then
      resolveNames d cwd settings rest found
    else
      match resolveImport d cwd settings.packageRoot name with
      | (log, .error failure) => (log, .error failure)
      | (log, .ok none) =>
        let (more, result) := resolveNames d cwd settings rest found
        (log ++ more, result)
      | (log, .ok (some entry)) =>
        let (more, result) := resolveNames d cwd settings rest (entry :: found)
        (log ++ more, result)

/-- Resolves every import of every snippet. -/
def resolve (d : Disk) (cwd : Place) (settings : ResolverSettings) (snippets : List Snippet) :
    Outcome (List ManifestEntry) :=
  match resolveNames d cwd settings (snippets.flatMap (·.imports)) [] with
  | (log, .error failure) => (log, .error failure)
  | (log, .ok entries) =>
    (log ++ [.debug ("Resolved " ++ toString entries.length ++ " manifest entries from "
      ++ toString snippets.length ++ " code blocks")], .ok entries)

end Discovery

end SnippetForge
