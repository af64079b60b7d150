import SnippetForge.Machine.Input
import SnippetForge.Shell.Expand
import SnippetForge.Shell.Program

/-!
# Redirections

Opening the target of a redirection. A file is opened at once; the end of a named pipe only when
somebody has opened its other end or is about to, and then both ends are opened together. A
redirection that fails gives up its command, and the script too if that is a command whose failure
ends scripts.
-/

namespace SnippetForge.Machine

open Shell

/-! ### Substitutions -/

/-- The descriptor by which a process holds a pipe whose output a task of it needs. No script can name
it. -/
def hiddenDescriptor : PipeId → Nat
  | .unnamed id => 1000 + id
  | .named _ => 1000

/-- Starts a script whose output a task needs before it can go on. -/
def substitute (m : Machine) (p : Process) (script : Command) (task : Task) (rest : List Task) :
    Machine :=
  let (m, pipe) := m.newPipe false false
  let (m, pid) := m.fork p (setHandle p.handles 1 (.writing pipe)) [.run script false, .quit]
  m.putProcess
    { withFreeJob p with
      handles := setHandle p.handles (hiddenDescriptor pipe) (.reading pipe),
      agenda := .fill pid pipe task :: rest }

/-! ### Failures -/

/-- The tasks that are left of a command whose redirection failed; none if the failure ends the
script. -/
def giveUp : List Task → Option (List Task)
  | [] => none
  | .restore handles :: rest => some (.restore handles :: rest)
  | .assign _ _ words _ _ :: rest =>
    if (words.head?).any specialBuiltins.contains then none else some rest
  | .quit :: _ => none
  | _ :: rest => giveUp rest

/-- Gives up a command whose redirection failed. -/
def refuse (m : Machine) (p : Process) (text : String) (rest : List Task) : Machine :=
  match giveUp rest with
  | some rest => m.complain p text 2 rest
  | none => m.abort p text 2

/-! ### Opening -/

/-- Goes on with an open descriptor. -/
def opened (m : Machine) (p : Process) (descriptor : Nat) (h : Handle) (rest : List Task) :
    Machine :=
  m.putProcess { p with handles := setHandle p.handles descriptor h, agenda := rest }

/-- Goes on with a descriptor that bytes can be read from. -/
def openedContent (m : Machine) (p : Process) (descriptor : Nat) (bytes : ByteArray)
    (rest : List Task) : Machine :=
  let (m, id) := m.newContent bytes
  m.opened p descriptor (.reading id) rest

/-- Opens a file for writing. -/
def openedFile (m : Machine) (p : Process) (descriptor : Nat) (kind : RedirectKind) (path : Path)
    (target : String) (rest : List Task) : Machine :=
  let truncates := kind == .write || kind == .overwrite
  let keep (content : ByteArray) : ByteArray := if truncates then ByteArray.empty else content
  let refusal (fault : Fault) : String :=
    "cannot create " ++ target ++ ": " ++ openWords "Directory nonexistent" fault
  if kind == .write && p.hasOption 'C' && m.disk.isFile p.cwd path then
    m.refuse p (refusal (.system .exists)) rest
  else
    match m.disk.updateFile p.cwd path (Mode.shared.without p.mask) keep with
    | .error fault => m.refuse p (refusal fault) rest
    | .ok disk =>
      match disk.locateEntry p.cwd true path with
      | .ok (_, entry) =>
        match entry.node with
        | .device d => m.opened p descriptor (.device d) rest
        | _ =>
          let access : Access :=
            match kind with
            | .append => .appending
            | .update => .both
            | _ => .writing
          let (m, id) := { m with disk := disk }.openFile entry.id access
          m.opened p descriptor (.file id) rest
      | .error fault => m.refuse p (refusal fault) rest

/-- Opens a file for reading. -/
def openedInput (m : Machine) (p : Process) (descriptor : Nat) (target : String)
    (rest : List Task) : Machine :=
  let path : Path := ⟨Text.decoded target⟩
  let refuse (fault : Fault) : Machine :=
    m.refuse p ("cannot open " ++ target ++ ": " ++ openWords "No such file" fault) rest
  match m.disk.locateEntry p.cwd true path with
  | .ok (_, entry) =>
    if !entry.mode.isReadable then refuse (.system .accessDenied)
    else
      match entry.node with
      | .device d => m.opened p descriptor (.device d) rest
      | .directory => m.opened p descriptor (.device .null) rest
      | _ =>
        let (m, id) := m.openFile entry.id .reading
        m.opened p descriptor (.file id) rest
  | .error fault => refuse fault

/-! ### Descriptors by their names -/

/-- The descriptor that a path stands for. -/
def namedDescriptor? (target : String) : Option Nat :=
  match target with
  | "/dev/stdin" => some 0
  | "/dev/stdout" => some 1
  | "/dev/stderr" => some 2
  | target =>
    if target.startsWith "/dev/fd/" then Text.natural? (String.ofList (target.toList.drop 8))
    else none

/-- Goes on with a descriptor that leads where another one does. -/
def copied (m : Machine) (p : Process) (descriptor source : Nat) (rest : List Task) : Machine :=
  match handleOf p source with
  | some h => m.opened p descriptor h rest
  | none => m.refuse p (toString source ++ ": Bad file descriptor") rest

/-- Opens what another descriptor leads to once more. -/
def reopened (m : Machine) (p : Process) (descriptor : Nat) (kind : RedirectKind) (source : Nat)
    (target : String) (rest : List Task) : Machine :=
  match handleOf p source with
  | some (.file id) =>
    match m.file? id with
    | some f =>
      match m.disk.placeOf? f.node with
      | some place =>
        if kind == .read then m.openedInput p descriptor (Text.encoded place.path.text) rest
        else m.openedFile p descriptor kind place.path target rest
      | none => m.opened p descriptor (.file id) rest
    | none => m.refuse p ("cannot open " ++ target ++ ": No such file") rest
  | some h => m.opened p descriptor h rest
  | none =>
    let verb := if kind == .read then "open " else "create "
    let words := if kind == .read then "No such file" else "Directory nonexistent"
    m.refuse p ("cannot " ++ verb ++ target ++ ": " ++ words) rest

/-! ### Steps -/

/-- Makes a step of a redirection; none if the other end of a named pipe is missing. -/
def stepRedirect (m : Machine) (p : Process) (descriptor : Nat) (kind : RedirectKind)
    (target : String) (rest : List Task) : Option Machine :=
  match kind with
  | .here => some (m.openedContent p descriptor (Text.octetBytes target) rest)
  | .copy =>
    if target = "-" then
      some (m.putProcess
        { p with handles := p.handles.filter (fun e => e.1 != descriptor), agenda := rest })
    else
      match Text.natural? target with
      | some source =>
        if target.length = 1 then some (m.copied p descriptor source rest)
        else some (m.abort p "Syntax error: Bad fd number" 2)
      | none => some (m.abort p "Syntax error: Bad fd number" 2)
  | kind =>
    match namedDescriptor? target, m.namedPipe? p.cwd ⟨Text.decoded target⟩ with
    | some source, _ => some (m.reopened p descriptor kind source target rest)
    | none, some id =>
      let isReady := if kind == .read then m.hasWriter id else m.hasReader id
      if isReady then some (m.openEnds id) else none
    | none, none =>
      if kind == .read then some (m.openedInput p descriptor target rest)
      else some (m.openedFile p descriptor kind ⟨Text.decoded target⟩ target rest)

/-- Expands the next target of some redirections, or opens them all when that is done. -/
def stepAim (m : Machine) (p : Process) (done : List (Nat × RedirectKind × String))
    (left : List Redirect) (rest : List Task) : Machine :=
  match left with
  | [] => m.continueWith p (done.reverse.map (fun r => .redirect r.1 r.2.1 r.2.2) ++ rest)
  | .mk descriptor kind target :: left =>
    let expanded :=
      if kind == .here then
        (expandParts p false false target).map fun progress => progress.map textOf id
      else expandText p false target
    match expanded with
    | .error text => m.abort p text 2
    | .ok (.paused p script target) =>
      m.substitute p script (.aim done (.mk descriptor kind target :: left)) rest
    | .ok (.done p text) =>
      m.continueWith p (.aim ((descriptor, kind, text) :: done) left :: rest)

end SnippetForge.Machine
