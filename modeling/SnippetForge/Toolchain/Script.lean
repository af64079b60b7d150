import SnippetForge.Toolchain.Basic

/-!
# Scripted toolchains

A toolchain that plays a list of actions: it writes bundles, works on the files below the
directory of the entry, waits, cancels, and returns what it is told to. After its last action it
returns an empty report. Any finite behaviour of a toolchain on files is such a list.
-/

namespace SnippetForge

/-- A step of a scripted toolchain. -/
inductive ToolchainAction
  /-- Writes the bundle: the text of the entry, transformed. -/
  | bundle (transform : String → String)
  /-- Waits until the token is fired. -/
  | awaitCancel
  /-- Lets others go first. -/
  | pause
  /-- Fires the token of the caller. -/
  | cancelCaller
  /-- Works on files below the directory of the entry. -/
  | file (operation : FileOperation)
  /-- Returns. -/
  | finish (result : Except Failure Report)

namespace ToolchainAction

/-- The disk after the bundle has been written. -/
def writeBundle (d : Disk) (cwd : Place) (request : Request) (transform : String → String) :
    Except Fault Disk :=
  match d.readText cwd request.entry with
  | .error fault => .error fault
  | .ok source =>
    match d.makeDirectories cwd request.outputDirectory with
    | .error fault => .error fault
    | .ok d => d.writeFile cwd request.bundlePath (transform source).toUTF8

/-- Fires the parent of a token. -/
def fireParent (t : Tokens) (token : TokenId) : Tokens :=
  match t.states[token]? with
  | some state =>
    match state.parent with
    | some parent => t.fire parent
    | none => t
  | none => t

/-- Plays the first action that is left. -/
def play (w : World) (request : Request) (token : TokenId) :
    List ToolchainAction → World × Turn (List ToolchainAction)
  | [] => (w, .finished (.ok Report.empty))
  | .bundle transform :: rest =>
    match writeBundle w.disk w.cwd request transform with
    | .ok disk => (w.withDisk disk, .running rest)
    | .error _ => (w, .running rest)
  | .awaitCancel :: rest => (w, if w.tokens.isFired token then .running rest else .waiting)
  | .pause :: rest => (w, .running rest)
  | .cancelCaller :: rest => (w.withTokens (fireParent w.tokens token), .running rest)
  | .file operation :: rest =>
    (w.operate request.directory operation, .running rest)
  | .finish result :: _ => (w, .finished result)

end ToolchainAction

/-- The toolchain that plays some actions. -/
def Toolchain.scripted (actions : List ToolchainAction) : Toolchain (List ToolchainAction) where
  name := "scripted"
  start := fun w _ _ => (w, actions)
  resume := fun w request token state => ToolchainAction.play w request token state

end SnippetForge
