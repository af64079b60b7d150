import SnippetForge.Proofs.Compilation.Runs

/-!
# Outcomes of a compilation

What a compilation returns is decided by the first of its stages that fails. This file says so
without any machine: `Outcome` lists the stages in their order, each with what has to have gone
right before it, what fails in it, and what is returned then. Two relations beneath it describe the
parts that take more than one step, the work of the toolchain and the reading of the bundle.

That the machine and the list agree is the subject of `Precedence`.
-/

namespace SnippetForge.Compilation

variable {σ : Type} {tc : Toolchain σ}

/-! ### The work of a toolchain -/

/-- How a toolchain comes to its end. -/
inductive Ending
  /-- It returns before its time is up. -/
  | inTime (result : Except Failure Report)
  /-- It is told to stop when a limit is reached, and returns after that. -/
  | late (limit : Duration) (result : Except Failure Report)

/-- A toolchain that has been told to stop goes on from a world and a state until it returns. -/
inductive Stops (tc : Toolchain σ) (request : Request) (token : TokenId) :
    World → σ → World → Except Failure Report → Prop
  | finish {w w' : World} {s : σ} {result : Except Failure Report}
      (h : tc.resume w request token s = (w', .finished result)) :
      Stops tc request token w s w' result
  | running {w w₁ w' : World} {s s₁ : σ} {result : Except Failure Report}
      (h : tc.resume w request token s = (w₁, .running s₁))
      (rest : Stops tc request token w₁ s₁ w' result) : Stops tc request token w s w' result
  | wait {w w₁ w' : World} {s : σ} {result : Except Failure Report}
      (h : (tc.resume w request token s).2 = .waiting) (passed : w.advance? [] = some w₁)
      (rest : Stops tc request token w₁ s w' result) : Stops tc request token w s w' result

/-- A toolchain works from a world and a state until it comes to its end. -/
inductive Works (tc : Toolchain σ) (request : Request) (token : TokenId)
    (deadline : Option Deadline) : World → σ → World → Ending → Prop
  | finish {w w' : World} {s : σ} {result : Except Failure Report}
      (h : tc.resume w request token s = (w', .finished result)) :
      Works tc request token deadline w s w' (.inTime result)
  | running {w w₁ w' : World} {s s₁ : σ} {ending : Ending}
      (h : tc.resume w request token s = (w₁, .running s₁))
      (rest : Works tc request token deadline w₁ s₁ w' ending) :
      Works tc request token deadline w s w' ending
  | wait {w w₁ w' : World} {s : σ} {ending : Ending}
      (h : (tc.resume w request token s).2 = .waiting) (early : isExpired w deadline = none)
      (passed : w.advance? (deadline.map (·.time)).toList = some w₁)
      (rest : Works tc request token deadline w₁ s w' ending) :
      Works tc request token deadline w s w' ending
  | expire {w w' : World} {s : σ} {limit : Duration} {result : Except Failure Report}
      (h : (tc.resume w request token s).2 = .waiting)
      (expired : isExpired w deadline = some limit)
      (rest : Stops tc request token
        ((w.report (expiredLine tc.name limit)).withTokens (w.tokens.fire token)) s w' result) :
      Works tc request token deadline w s w' (.late limit result)

/-! ### The reading of a bundle -/

/-- The bytes of a named pipe are collected once its writers are done. -/
inductive Collects (pipe : PipeId) : World → World → ByteArray → Prop
  | done {w : World} (drained : w.toMachine.isDrained pipe = true) :
      Collects pipe w
        (w.withMachine ((w.toMachine.drain pipe).1.readOutside pipe false))
        (w.toMachine.drain pipe).2
  | wait {w w₁ w' : World} {bytes : ByteArray} (busy : w.toMachine.isDrained pipe = false)
      (passed : w.advance? [] = some w₁) (rest : Collects pipe w₁ w' bytes) :
      Collects pipe w w' bytes

/-- The text of a bundle is read, or the fault that prevents it is met. -/
inductive ReadsBundle (path : Path) : World → World → Except Fault String → Prop
  | file {w : World} (regular : w.toMachine.namedPipe? w.cwd path = none) :
      ReadsBundle path w w (w.disk.readText w.cwd path)
  | pipe {w w' : World} {pipe : PipeId} {bytes : ByteArray}
      (named : w.toMachine.namedPipe? w.cwd path = some pipe)
      (collected : Collects pipe (w.withMachine (w.toMachine.readOutside pipe true)) w' bytes) :
      ReadsBundle path w w' (Disk.textOf bytes)

/-! ### Stages -/

/-- The stages of a compilation at which it can fail, in their order, and its success. -/
inductive Stage
  /-- The caller has cancelled before. -/
  | token
  /-- The staging directory is made. -/
  | creation
  /-- The entry file is written. -/
  | entry
  /-- The toolchain has a limit. -/
  | limit
  /-- The toolchain returns. -/
  | toolchain
  /-- The bundle is read. -/
  | bundle
  /-- The staging directory is removed. -/
  | removal
  /-- Nothing has failed. -/
  | success
  deriving DecidableEq, Repr

/-- Whether the toolchain has been invoked when a stage is reached. -/
def Stage.isInvoked : Stage → Bool
  | .token => false
  | .creation => false
  | .entry => false
  | _ => true

/-- The world after a compilation has reported how its extension was chosen. -/
def opened (w : World) (tag : String) : World :=
  w.reportAll (fallbackLines tag (EntryExtension.ofTag tag))

/-- A world with a count of names. -/
def drawnTo (w : World) (drawn : Nat) : World :=
  { w with drawn := drawn }

/-- The world in which a toolchain is started, with the token that it is handed. -/
def invocation (w : World) (disk : Disk) (request : Request) (caller : Option TokenId) :
    World × TokenId :=
  let w := (w.withDisk disk).recordCall request
  (w.withTokens (w.tokens.add caller).1, (w.tokens.add caller).2)

/-- The limit that is in force: that of the call, or else that of the settings. -/
def limitOf (settings : Settings) (options : CompileOptions) : Option Duration :=
  options.limit.or settings.timeout

/-- The limit in force with the point in time at which it is reached. -/
def deadlineFrom (w : World) (settings : Settings) (options : CompileOptions) : Option Deadline :=
  (limitOf settings options).map fun limit => ⟨limit, w.clock + limit.totalNanos⟩

/-- The world after the end of a compilation that has failed: the area is removed, and a failure to
do so is only logged. -/
def abandoned (w : World) (area : StagingArea) : World :=
  match area.close w.disk w.cwd with
  | .ok disk => (w.withDisk disk).report area.removedLine
  | .error cleanup => w.report (.warn cleanup.message)

/-- A compilation that has not been cancelled makes its staging area. -/
inductive Creates (settings : Settings) (tag : String) (options : CompileOptions) (w : World) :
    StagingArea → World → Prop
  | intro {drawn : Nat} {area : StagingArea} {disk : Disk}
      (live : isCancelled w options = false)
      (made : StagingArea.create w.disk w.cwd settings.stagingRoot w.names w.drawn
        = (drawn, .ok (area, disk))) :
      Creates settings tag options w area
        (((drawnTo (opened w tag) drawn).withDisk disk).report area.createdLine)

/-- The request for the entry of an area. -/
def requestOf (settings : Settings) (tag : String) (area : StagingArea) : Request :=
  Request.ofEntry (area.entryPath (EntryExtension.ofTag tag)) area settings

/-- What a toolchain makes of a request when it is started. -/
def startOf (tc : Toolchain σ) (settings : Settings) (tag : String) (options : CompileOptions)
    (area : StagingArea) (w : World) (disk : Disk) : World × σ :=
  let request := requestOf settings tag area
  tc.start (invocation w disk request options.token).1 request
    (invocation w disk request options.token).2

/-- The entry is written into an area, and a toolchain works on it until it comes to its end. -/
inductive Invokes (tc : Toolchain σ) (settings : Settings) (source tag : String)
    (options : CompileOptions) (area : StagingArea) (w : World) : World → Ending → Prop
  | intro {w' : World} {disk : Disk} {ending : Ending}
      (written : area.writeEntry w.disk w.cwd (EntryExtension.ofTag tag) source
        = .ok (area.entryPath (EntryExtension.ofTag tag), disk))
      (worked : Works tc (requestOf settings tag area)
        (invocation w disk (requestOf settings tag area) options.token).2
        (deadlineFrom w settings options) (startOf tc settings tag options area w disk).1
        (startOf tc settings tag options area w disk).2 w' ending) :
      Invokes tc settings source tag options area w w' ending

/-- The world after a report of a toolchain has been logged. -/
def reported (tc : Toolchain σ) (w : World) (report : Report) : World :=
  w.reportAll (report.diagnostics.map (diagnosticLine tc.name))

/-- What a compilation that starts in a world comes to: the first stage that fails, the world
after it, and the result. -/
inductive Outcome (tc : Toolchain σ) (settings : Settings) (source tag : String)
    (options : CompileOptions) (w : World) : Stage → World → Except Failure Bundle → Prop
  /-- The caller has cancelled. Nothing happens at all. -/
  | token (cancelled : isCancelled w options = true) :
      Outcome tc settings source tag options w .token w (.error .cancelled)
  /-- The area cannot be made. The failure names the staging root of the settings. -/
  | creation {drawn : Nat} {fault : Fault} (live : isCancelled w options = false)
      (refused : StagingArea.create w.disk w.cwd settings.stagingRoot w.names w.drawn
        = (drawn, .error (.staging settings.stagingRoot fault))) :
      Outcome tc settings source tag options w .creation (drawnTo (opened w tag) drawn)
        (.error (.staging settings.stagingRoot fault))
  /-- The entry cannot be written. The failure names the entry. -/
  | entry {area : StagingArea} {w₁ : World} {fault : Fault}
      (created : Creates settings tag options w area w₁)
      (unwritten : area.writeEntry w₁.disk w₁.cwd (EntryExtension.ofTag tag) source
        = .error (.staging (area.entryPath (EntryExtension.ofTag tag)) fault)) :
      Outcome tc settings source tag options w .entry (abandoned w₁ area)
        (.error (.staging (area.entryPath (EntryExtension.ofTag tag)) fault))
  /-- The limit in force is reached first. What the toolchain returns later does not matter. -/
  | limit {area : StagingArea} {w₁ w₂ : World} {limit : Duration}
      {result : Except Failure Report} (inForce : limitOf settings options = some limit)
      (created : Creates settings tag options w area w₁)
      (invoked : Invokes tc settings source tag options area w₁ w₂ (.late limit result)) :
      Outcome tc settings source tag options w .limit
        (abandoned (w₂.reportAll (lateLines result)) area) (.error (.timeout limit))
  /-- The toolchain fails in time. Its failure is handed on as it is. -/
  | toolchain {area : StagingArea} {w₁ w₂ : World} {failure : Failure}
      (created : Creates settings tag options w area w₁)
      (invoked : Invokes tc settings source tag options area w₁ w₂ (.inTime (.error failure))) :
      Outcome tc settings source tag options w .toolchain (abandoned w₂ area) (.error failure)
  /-- The bundle cannot be read. The failure names the bundle. -/
  | bundle {area : StagingArea} {w₁ w₂ w₃ : World} {report : Report} {fault : Fault}
      (created : Creates settings tag options w area w₁)
      (invoked : Invokes tc settings source tag options area w₁ w₂ (.inTime (.ok report)))
      (unread : ReadsBundle area.bundlePath (reported tc w₂ report) w₃ (.error fault)) :
      Outcome tc settings source tag options w .bundle (abandoned w₃ area)
        (.error (.outputRead area.bundlePath fault))
  /-- The area cannot be removed. The failure names its directory. -/
  | removal {area : StagingArea} {w₁ w₂ w₃ : World} {report : Report} {code : String}
      {fault : Fault} (created : Creates settings tag options w area w₁)
      (invoked : Invokes tc settings source tag options area w₁ w₂ (.inTime (.ok report)))
      (read : ReadsBundle area.bundlePath (reported tc w₂ report) w₃ (.ok code))
      (stuck : area.close w₃.disk w₃.cwd = .error (.cleanup area.path fault)) :
      Outcome tc settings source tag options w .removal w₃ (.error (.cleanup area.path fault))
  /-- Nothing fails. The bundle holds the text and every diagnostic, errors among them or not. -/
  | success {area : StagingArea} {w₁ w₂ w₃ : World} {report : Report} {code : String}
      {disk : Disk} (created : Creates settings tag options w area w₁)
      (invoked : Invokes tc settings source tag options area w₁ w₂ (.inTime (.ok report)))
      (read : ReadsBundle area.bundlePath (reported tc w₂ report) w₃ (.ok code))
      (removed : area.close w₃.disk w₃.cwd = .ok disk) :
      Outcome tc settings source tag options w .success
        ((w₃.withDisk disk).report area.removedLine)
        (.ok ⟨code, EntryExtension.ofTag tag, report.diagnostics,
          (w₃.clock - w.clock) / 1000000⟩)

end SnippetForge.Compilation
