import SnippetForge.Bundle
import SnippetForge.Toolchain.Basic

/-!
# Compiling a snippet

A compilation stages the source in a directory of its own, has a toolchain bundle it, reads the
bundle back and removes the directory, whatever happens on the way. It is a machine of small
steps, so that several compilations can share a world and their steps can interleave.

The phases follow each other in one direction. Once the directory exists, every way out leads
through `closing`, which removes it. A toolchain that has to wait when its time is up is told to
stop by firing its token, and is then waited for: its files are removed only after it has come to
an end. The token of the toolchain is a child of the caller's token, so stopping a toolchain never
touches the caller's.

Of two failures the earlier one counts. A failure to remove the directory that comes second is
only logged.
-/

namespace SnippetForge

/-- What a caller asks for in one compilation. -/
structure CompileOptions where
  /-- A time limit in place of the one in the settings. -/
  limit : Option Duration
  /-- The token by which the caller may cancel. -/
  token : Option TokenId
  deriving DecidableEq, Repr

/-- No limit of its own and no token. -/
def CompileOptions.none : CompileOptions :=
  ⟨.none, .none⟩

/-- The limit of a run and the point in time at which it is reached. -/
structure Deadline where
  limit : Duration
  time : Nat
  deriving DecidableEq, Repr

/-- How far a compilation is. -/
inductive Phase (σ : Type)
  /-- Nothing has been done. -/
  | ready
  /-- A free name is looked for. -/
  | naming (parent : Place) (tries : Nat)
  /-- The staging directory is there. -/
  | staged (area : StagingArea)
  /-- The toolchain is at work. -/
  | bundling (area : StagingArea) (request : Request) (token : TokenId)
      (deadline : Option Deadline) (state : σ)
  /-- The time is up, and the toolchain is to come to an end. -/
  | stopping (area : StagingArea) (request : Request) (token : TokenId) (limit : Duration)
      (state : σ)
  /-- The toolchain has reported. -/
  | reading (area : StagingArea) (request : Request) (report : Report)
  /-- The bundle is a named pipe that is being read. -/
  | collecting (area : StagingArea) (request : Request) (report : Report)
      (pipe : PipeId)
  /-- Only the staging directory is left to remove. -/
  | closing (area : StagingArea) (outcome : Except Failure (String × Report))
  /-- Nothing is left to do. -/
  | finished (result : Except Failure Bundle)

/-- A compilation under way. -/
structure Compilation (σ : Type) where
  settings : Settings
  source : String
  tag : String
  options : CompileOptions
  /-- When it was started. -/
  began : Nat
  phase : Phase σ

namespace Compilation

variable {σ : Type}

/-- A compilation before its first step. -/
def new (settings : Settings) (source tag : String) (options : CompileOptions) : Compilation σ :=
  ⟨settings, source, tag, options, 0, .ready⟩

/-- The extension of the entry file. -/
def extension (c : Compilation σ) : EntryExtension :=
  EntryExtension.ofTag c.tag

/-- A compilation in another phase. -/
def enter (c : Compilation σ) (phase : Phase σ) : Compilation σ :=
  { c with phase := phase }

/-- The result, if there is one. -/
def result? (c : Compilation σ) : Option (Except Failure Bundle) :=
  match c.phase with
  | .finished result => some result
  | _ => none

/-- The point in time at which the limit is reached, if a toolchain is at work under one. -/
def deadline? (c : Compilation σ) : Option Nat :=
  match c.phase with
  | .bundling _ _ _ (some deadline) _ => some deadline.time
  | _ => none

/-! ### Reports -/

/-- The report that an extension was chosen without a known language. -/
def fallbackLines (tag : String) (e : EntryExtension) : List LogLine :=
  match e.fallback with
  | some fallback =>
    [.warn ("Unrecognized language tag " ++ Text.quoted tag ++ ", using extension '"
      ++ e.extension ++ "' (" ++ fallback.name ++ ")")]
  | none => []

/-- The report of a diagnostic. -/
def diagnosticLine (toolchain : String) (d : Diagnostic) : LogLine :=
  match d.severity with
  | .error => .warn (toolchain ++ " error: " ++ d.message)
  | .warning => .debug (toolchain ++ " warning: " ++ d.message)

/-- The report that the time is up. -/
def expiredLine (toolchain : String) (limit : Duration) : LogLine :=
  .warn (toolchain ++ " did not finish within " ++ limit.text ++ ", cancelling")

/-- The report of how a toolchain came to an end after its time was up. -/
def lateLines : Except Failure Report → List LogLine
  | .error .cancelled => []
  | .error failure => [.debug ("Toolchain error after timeout: " ++ failure.message)]
  | .ok _ => []

/-! ### Steps -/

/-- Whether the caller has cancelled already. -/
def isCancelled (w : World) (options : CompileOptions) : Bool :=
  match options.token with
  | some token => w.tokens.isFired token
  | none => false

/-- The first step: checks the token and finds the place for staging. -/
def begin (w : World) (c : Compilation σ) : World × Compilation σ :=
  if isCancelled w c.options then (w, c.enter (.finished (.error .cancelled)))
  else
    let w := w.reportAll (fallbackLines c.tag c.extension)
    let c := { c with began := w.clock }
    match StagingArea.parentOf w.disk w.cwd c.settings.stagingRoot with
    | .ok parent => (w, c.enter (.naming parent StagingArea.maxTries))
    | .error failure => (w, c.enter (.finished (.error failure)))

/-- Tries one name for the staging directory. -/
def name (w : World) (c : Compilation σ) (parent : Place) (tries : Nat) :
    World × Compilation σ :=
  let refuse (w : World) (fault : Fault) : World × Compilation σ :=
    (w, c.enter (.finished (.error (.staging c.settings.stagingRoot fault))))
  match tries with
  | 0 => refuse w (StagingArea.exhausted parent)
  | tries + 1 =>
    let (w, random) := w.draw
    match StagingArea.attempt w.disk w.cwd parent random with
    | .made area disk =>
      ((w.withDisk disk).report area.createdLine, c.enter (.staged area))
    | .taken => (w, c.enter (.naming parent tries))
    | .failed fault => refuse w fault

/-- The deadline of a run that starts now. -/
def deadlineOf (w : World) (c : Compilation σ) : Option Deadline :=
  (c.options.limit.or c.settings.timeout).map fun limit => ⟨limit, w.clock + limit.totalNanos⟩

/-- Writes the entry file and starts the toolchain. -/
def stage (tc : Toolchain σ) (w : World) (c : Compilation σ) (area : StagingArea) :
    World × Compilation σ :=
  match area.writeEntry w.disk w.cwd c.extension c.source with
  | .error failure => (w, c.enter (.closing area (.error failure)))
  | .ok (entry, disk) =>
    let request := Request.ofEntry entry area c.settings
    let w := (w.withDisk disk).recordCall request
    let (tokens, token) := w.tokens.add c.options.token
    let (started, state) := tc.start (w.withTokens tokens) request token
    (started, c.enter (.bundling area request token (deadlineOf w c) state))

/-- Whether the time is up. -/
def isExpired (w : World) (deadline : Option Deadline) : Option Duration :=
  match deadline with
  | some deadline => if deadline.time ≤ w.clock then some deadline.limit else none
  | none => none

/-- What follows when the toolchain has come to an end in time. -/
def concluded (tc : Toolchain σ) (w : World) (c : Compilation σ) (area : StagingArea)
    (request : Request) : Except Failure Report → World × Compilation σ
  | .error failure => (w, c.enter (.closing area (.error failure)))
  | .ok report =>
    (w.reportAll (report.diagnostics.map (diagnosticLine tc.name)),
      c.enter (.reading area request report))

/-- Resumes the toolchain, and tells it to stop if it has to wait when its time is up. -/
def bundle (tc : Toolchain σ) (w : World) (c : Compilation σ) (area : StagingArea)
    (request : Request) (token : TokenId) (deadline : Option Deadline) (state : σ) :
    Option (World × Compilation σ) :=
  match tc.resume w request token state with
  | (w, .running state) => some (w, c.enter (.bundling area request token deadline state))
  | (w, .finished result) => some (concluded tc w c area request result)
  | (_, .waiting) =>
    match isExpired w deadline with
    | some limit =>
      some ((w.report (expiredLine tc.name limit)).withTokens (w.tokens.fire token),
        c.enter (.stopping area request token limit state))
    | none => none

/-- Resumes a toolchain whose time is up. -/
def stop (tc : Toolchain σ) (w : World) (c : Compilation σ) (area : StagingArea)
    (request : Request) (token : TokenId) (limit : Duration) (state : σ) :
    Option (World × Compilation σ) :=
  match tc.resume w request token state with
  | (w, .running state) => some (w, c.enter (.stopping area request token limit state))
  | (w, .finished result) =>
    some (w.reportAll (lateLines result), c.enter (.closing area (.error (.timeout limit))))
  | (_, .waiting) => none

/-- The outcome of reading a bundle. -/
def bundleOutcome (request : Request) (report : Report) :
    Except Fault String → Except Failure (String × Report)
  | .ok code => .ok (code, report)
  | .error fault => .error (.outputRead request.bundlePath fault)

/-- Reads the bundle, or opens it if it is a named pipe. -/
def read (w : World) (c : Compilation σ) (area : StagingArea) (request : Request)
    (report : Report) : World × Compilation σ :=
  match w.toMachine.namedPipe? w.cwd request.bundlePath with
  | some pipe =>
    (w.withMachine (w.toMachine.readOutside pipe true),
      c.enter (.collecting area request report pipe))
  | none =>
    (w, c.enter (.closing area
      (bundleOutcome request report (w.disk.readText w.cwd request.bundlePath))))

/-- Reads a bundle that is a named pipe, once its writers are done. -/
def collect (w : World) (c : Compilation σ) (area : StagingArea) (request : Request)
    (report : Report) (pipe : PipeId) : Option (World × Compilation σ) :=
  if w.toMachine.isDrained pipe then
    let (m, bytes) := w.toMachine.drain pipe
    some (w.withMachine (m.readOutside pipe false),
      c.enter (.closing area (bundleOutcome request report (Disk.textOf bytes))))
  else none

/-- Joins the outcome of a run with that of removing its directory. The earlier failure counts;
a later one is only logged. -/
def settle {α : Type} : Except Failure α → Except Failure Unit → List LogLine × Except Failure α
  | .ok value, .ok () => ([], .ok value)
  | .ok _, .error cleanup => ([], .error cleanup)
  | .error failure, .ok () => ([], .error failure)
  | .error failure, .error cleanup => ([.warn cleanup.message], .error failure)

/-- The bundle of a compilation that ends now. -/
def bundleOf (w : World) (c : Compilation σ) (outcome : String × Report) : Bundle :=
  ⟨outcome.1, c.extension, outcome.2.diagnostics, (w.clock - c.began) / 1000000⟩

/-- Removes the staging directory and gives the result. -/
def close (w : World) (c : Compilation σ) (area : StagingArea)
    (outcome : Except Failure (String × Report)) : World × Compilation σ :=
  match area.close w.disk w.cwd with
  | .ok disk =>
    ((w.withDisk disk).report area.removedLine,
      c.enter (.finished (outcome.map (bundleOf w c))))
  | .error cleanup =>
    let (lines, result) := settle outcome (.error cleanup)
    (w.reportAll lines, c.enter (.finished (result.map (bundleOf w c))))

/-- Makes a step; none if nothing is left to do or if something has to happen first. -/
def step (tc : Toolchain σ) (w : World) (c : Compilation σ) : Option (World × Compilation σ) :=
  match c.phase with
  | .ready => some (begin w c)
  | .naming parent tries => some (name w c parent tries)
  | .staged area => some (stage tc w c area)
  | .bundling area request token deadline state =>
    bundle tc w c area request token deadline state
  | .stopping area request token limit state => stop tc w c area request token limit state
  | .reading area request report => some (read w c area request report)
  | .collecting area request report pipe => collect w c area request report pipe
  | .closing area outcome => some (close w c area outcome)
  | .finished _ => none

/-! ### Runs -/

/-- Runs one compilation to its end. When it has to wait, the world goes on by itself. One that
never comes to an end gives the world as it is left. -/
def run (tc : Toolchain σ) : (fuel : Nat) → World → Compilation σ →
    Except World (World × Except Failure Bundle)
  | 0, w, _ => .error w
  | fuel + 1, w, c =>
    match c.phase with
    | .finished result => .ok (w, result)
    | _ =>
      match step tc w c with
      | some (w, c) => run tc fuel w c
      | none =>
        match w.advance? c.deadline?.toList with
        | some w => run tc fuel w c
        | none => .error w

/-- Lets each compilation that can make a step make one. Tells whether any did. -/
def round (tc : Toolchain σ) : World → List (Compilation σ) → World × List (Compilation σ) × Bool
  | w, [] => (w, [], false)
  | w, c :: rest =>
    match step tc w c with
    | some (w, c) =>
      let (w, rest, _) := round tc w rest
      (w, c :: rest, true)
    | none =>
      let (w, rest, moved) := round tc w rest
      (w, c :: rest, moved)

/-- Runs several compilations at once to their ends. If one of them never comes to an end, this
gives the world as it is left. -/
def runAll (tc : Toolchain σ) : (fuel : Nat) → World → List (Compilation σ) →
    Except World (World × List (Except Failure Bundle))
  | 0, w, _ => .error w
  | fuel + 1, w, cs =>
    match cs.mapM result? with
    | some results => .ok (w, results)
    | none =>
      match round tc w cs with
      | (w, cs, true) => runAll tc fuel w cs
      | (w, cs, false) =>
        match w.advance? (cs.filterMap deadline?) with
        | some w => runAll tc fuel w cs
        | none => .error w

end Compilation

end SnippetForge
