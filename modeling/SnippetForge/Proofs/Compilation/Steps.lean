import SnippetForge.Proofs.Compilation.Outcome
import SnippetForge.Proofs.Staging.Areas

/-!
# Single steps of a compilation

Everything that one step can do, said once. `Move` has a constructor for each way a step can go,
with the phase it starts in and what it finds in the world. A compilation makes a step exactly if
it makes a move, so what steps preserve is shown move by move, and nothing below this file unfolds
a phase again.
-/

namespace SnippetForge.Compilation

open StagingArea (close_cases writeEntry_cases)

variable {σ : Type} {tc : Toolchain σ}

/-! ### Moves -/

/-- The ways in which a compilation can make a step. -/
inductive Move (tc : Toolchain σ) (w : World) (c : Compilation σ) : World → Compilation σ → Prop
  /-- The caller has cancelled. -/
  | refrain (h : c.phase = .ready) (cancelled : isCancelled w c.options = true) :
      Move tc w c w (c.enter (.finished (.error .cancelled)))
  /-- The staging root leads nowhere. -/
  | rootless {failure : Failure} (h : c.phase = .ready) (live : isCancelled w c.options = false)
      (hroot : StagingArea.parentOf w.disk w.cwd c.settings.stagingRoot = .error failure) :
      Move tc w c (opened w c.tag)
        ({ c with began := w.clock }.enter (.finished (.error failure)))
  /-- A place for staging is found. -/
  | seek {parent : Place} (h : c.phase = .ready) (live : isCancelled w c.options = false)
      (hroot : StagingArea.parentOf w.disk w.cwd c.settings.stagingRoot = .ok parent) :
      Move tc w c (opened w c.tag)
        ({ c with began := w.clock }.enter (.naming parent StagingArea.maxTries))
  /-- Too many names have been tried. -/
  | exhaust {parent : Place} (h : c.phase = .naming parent 0) :
      Move tc w c w (c.enter (.finished
        (.error (.staging c.settings.stagingRoot (StagingArea.exhausted parent)))))
  /-- A name is taken. -/
  | skip {parent : Place} {tries : Nat} (h : c.phase = .naming parent (tries + 1))
      (taken : StagingArea.attempt w.disk w.cwd parent (w.names w.drawn) = .taken) :
      Move tc w c (drawnTo w (w.drawn + 1)) (c.enter (.naming parent tries))
  /-- A directory cannot be made. -/
  | refuse {parent : Place} {tries : Nat} {fault : Fault}
      (h : c.phase = .naming parent (tries + 1))
      (failed : StagingArea.attempt w.disk w.cwd parent (w.names w.drawn) = .failed fault) :
      Move tc w c (drawnTo w (w.drawn + 1))
        (c.enter (.finished (.error (.staging c.settings.stagingRoot fault))))
  /-- A directory is made. -/
  | make {parent : Place} {tries : Nat} {area : StagingArea} {disk : Disk}
      (h : c.phase = .naming parent (tries + 1))
      (made : StagingArea.attempt w.disk w.cwd parent (w.names w.drawn) = .made area disk) :
      Move tc w c (((drawnTo w (w.drawn + 1)).withDisk disk).report area.createdLine)
        (c.enter (.staged area))
  /-- The entry cannot be written. -/
  | unwritten {area : StagingArea} {failure : Failure} (h : c.phase = .staged area)
      (failed : area.writeEntry w.disk w.cwd c.extension c.source = .error failure) :
      Move tc w c w (c.enter (.closing area (.error failure)))
  /-- The entry is written and the toolchain started. -/
  | invoke {area : StagingArea} {disk : Disk} (h : c.phase = .staged area)
      (written : area.writeEntry w.disk w.cwd c.extension c.source
        = .ok (area.entryPath c.extension, disk)) :
      Move tc w c (startOf tc c.settings c.tag c.options area w disk).1
        (c.enter (.bundling area (requestOf c.settings c.tag area)
          (invocation w disk (requestOf c.settings c.tag area) c.options.token).2
          (deadlineFrom w c.settings c.options)
          (startOf tc c.settings c.tag c.options area w disk).2))
  /-- The toolchain makes a step. -/
  | work {area : StagingArea} {request : Request} {token : TokenId} {deadline : Option Deadline}
      {s s' : σ} {w' : World} (h : c.phase = .bundling area request token deadline s)
      (resumed : tc.resume w request token s = (w', .running s')) :
      Move tc w c w' (c.enter (.bundling area request token deadline s'))
  /-- The toolchain returns. -/
  | conclude {area : StagingArea} {request : Request} {token : TokenId}
      {deadline : Option Deadline} {s : σ} {w' : World} {result : Except Failure Report}
      (h : c.phase = .bundling area request token deadline s)
      (resumed : tc.resume w request token s = (w', .finished result)) :
      Move tc w c (concluded tc w' c area request result).1
        (concluded tc w' c area request result).2
  /-- The toolchain waits, and its time is up. -/
  | expire {area : StagingArea} {request : Request} {token : TokenId}
      {deadline : Option Deadline} {s : σ} {limit : Duration}
      (h : c.phase = .bundling area request token deadline s)
      (resumed : (tc.resume w request token s).2 = .waiting)
      (expired : isExpired w deadline = some limit) :
      Move tc w c ((w.report (expiredLine tc.name limit)).withTokens (w.tokens.fire token))
        (c.enter (.stopping area request token limit s))
  /-- The toolchain makes a step after its time. -/
  | linger {area : StagingArea} {request : Request} {token : TokenId} {limit : Duration}
      {s s' : σ} {w' : World} (h : c.phase = .stopping area request token limit s)
      (resumed : tc.resume w request token s = (w', .running s')) :
      Move tc w c w' (c.enter (.stopping area request token limit s'))
  /-- The toolchain returns after its time. -/
  | halt {area : StagingArea} {request : Request} {token : TokenId} {limit : Duration}
      {s : σ} {w' : World} {result : Except Failure Report}
      (h : c.phase = .stopping area request token limit s)
      (resumed : tc.resume w request token s = (w', .finished result)) :
      Move tc w c (w'.reportAll (lateLines result))
        (c.enter (.closing area (.error (.timeout limit))))
  /-- The bundle is read. -/
  | read {area : StagingArea} {request : Request} {report : Report}
      (h : c.phase = .reading area request report)
      (regular : w.toMachine.namedPipe? w.cwd request.bundlePath = none) :
      Move tc w c w (c.enter (.closing area
        (bundleOutcome request report (w.disk.readText w.cwd request.bundlePath))))
  /-- The bundle is a named pipe. -/
  | listen {area : StagingArea} {request : Request} {report : Report} {pipe : PipeId}
      (h : c.phase = .reading area request report)
      (named : w.toMachine.namedPipe? w.cwd request.bundlePath = some pipe) :
      Move tc w c (w.withMachine (w.toMachine.readOutside pipe true))
        (c.enter (.collecting area request report pipe))
  /-- The writers of a named pipe are done. -/
  | collect {area : StagingArea} {request : Request} {report : Report} {pipe : PipeId}
      (h : c.phase = .collecting area request report pipe)
      (drained : w.toMachine.isDrained pipe = true) :
      Move tc w c (w.withMachine ((w.toMachine.drain pipe).1.readOutside pipe false))
        (c.enter (.closing area (bundleOutcome request report
          (Disk.textOf (w.toMachine.drain pipe).2))))
  /-- The area is removed. -/
  | remove {area : StagingArea} {outcome : Except Failure (String × Report)} {disk : Disk}
      (h : c.phase = .closing area outcome) (closed : area.close w.disk w.cwd = .ok disk) :
      Move tc w c ((w.withDisk disk).report area.removedLine)
        (c.enter (.finished (outcome.map (bundleOf w c))))
  /-- The area cannot be removed. The earlier failure counts. -/
  | leave {area : StagingArea} {outcome : Except Failure (String × Report)} {cleanup : Failure}
      (h : c.phase = .closing area outcome) (stuck : area.close w.disk w.cwd = .error cleanup) :
      Move tc w c (w.reportAll (settle outcome (.error cleanup)).1)
        (c.enter (.finished ((settle outcome (.error cleanup)).2.map (bundleOf w c))))

-- Left reducible, these are unfolded down to the bytes of their paths.
attribute [local irreducible] StagingArea.attempt StagingArea.writeEntry StagingArea.close

/-- The first step, once the staging root has been looked at. -/
lemma begin_live {w : World} {c : Compilation σ} (live : isCancelled w c.options = false) :
    begin w c =
      match StagingArea.parentOf w.disk w.cwd c.settings.stagingRoot with
      | .ok parent => (opened w c.tag,
          { c with began := w.clock }.enter (.naming parent StagingArea.maxTries))
      | .error failure => (opened w c.tag,
          { c with began := w.clock }.enter (.finished (.error failure))) := by
  unfold begin
  rw [live]
  rfl

/-- A name is tried. -/
lemma name_succ (w : World) (c : Compilation σ) (parent : Place) (tries : Nat) :
    name w c parent (tries + 1) =
      match StagingArea.attempt w.disk w.cwd parent (w.names w.drawn) with
      | .made area disk =>
        (((drawnTo w (w.drawn + 1)).withDisk disk).report area.createdLine,
          c.enter (.staged area))
      | .taken => (drawnTo w (w.drawn + 1), c.enter (.naming parent tries))
      | .failed fault =>
        (drawnTo w (w.drawn + 1),
          c.enter (.finished (.error (.staging c.settings.stagingRoot fault)))) := by
  unfold name World.draw drawnTo
  cases hattempt : StagingArea.attempt w.disk w.cwd parent (w.names w.drawn) <;>
    simp only [hattempt]

/-- An entry that has been written is handed to the toolchain. -/
lemma stage_written {w : World} {c : Compilation σ} {area : StagingArea} {disk : Disk}
    (written : area.writeEntry w.disk w.cwd c.extension c.source
      = .ok (area.entryPath c.extension, disk)) :
    stage tc w c area = ((startOf tc c.settings c.tag c.options area w disk).1,
      c.enter (.bundling area (requestOf c.settings c.tag area)
        (invocation w disk (requestOf c.settings c.tag area) c.options.token).2
        (deadlineFrom w c.settings c.options)
        (startOf tc c.settings c.tag c.options area w disk).2)) := by
  unfold stage
  simp only [written]
  rfl

/-- Every move is a step. -/
lemma Move.step_eq {w w' : World} {c c' : Compilation σ} (h : Move tc w c w' c') :
    step tc w c = some (w', c') := by
  cases h with
  | refrain h cancelled =>
    rw [step, h]
    unfold begin
    simp only [cancelled, if_true]
  | rootless h live hroot =>
    rw [step, h]
    simp only [begin_live live, hroot]
    rfl
  | seek h live hroot =>
    rw [step, h]
    simp only [begin_live live, hroot]
    rfl
  | exhaust h =>
    rw [step, h]
    unfold name
    rfl
  | skip h taken =>
    rw [step, h]
    simp only [name_succ, taken]
  | refuse h failed =>
    rw [step, h]
    simp only [name_succ, failed]
  | make h made =>
    rw [step, h]
    simp only [name_succ, made]
  | unwritten h failed =>
    rw [step, h]
    unfold stage
    simp only [failed]
  | invoke h written =>
    rw [step, h]
    simp only [stage_written written]
  | work h resumed =>
    rw [step, h]
    unfold bundle
    simp only [resumed]
  | conclude h resumed =>
    rw [step, h]
    unfold bundle
    simp only [resumed]
  | @expire area request token deadline s limit h resumed expired =>
    rw [step, h]
    unfold bundle
    rcases hres : tc.resume w request token s with ⟨w₀, turn⟩
    rw [hres] at resumed
    subst resumed
    simp only [hres, expired]
  | linger h resumed =>
    rw [step, h]
    unfold stop
    simp only [resumed]
  | halt h resumed =>
    rw [step, h]
    unfold stop
    simp only [resumed]
  | read h regular =>
    rw [step, h]
    unfold Compilation.read
    simp only [regular]
  | listen h named =>
    rw [step, h]
    unfold Compilation.read
    simp only [named]
  | collect h drained =>
    rw [step, h]
    unfold Compilation.collect
    simp only [drained, if_true]
  | remove h closed =>
    rw [step, h]
    unfold close
    simp only [closed]
  | leave h stuck =>
    rw [step, h]
    unfold close
    simp only [stuck]

/-- Two compilations serve the same call. -/
structure SameCall (c c' : Compilation σ) : Prop where
  settings : c'.settings = c.settings
  source : c'.source = c.source
  tag : c'.tag = c.tag
  options : c'.options = c.options

lemma SameCall.refl (c : Compilation σ) : SameCall c c :=
  ⟨rfl, rfl, rfl, rfl⟩

lemma SameCall.symm {c c' : Compilation σ} (h : SameCall c c') : SameCall c' c :=
  ⟨h.settings.symm, h.source.symm, h.tag.symm, h.options.symm⟩

lemma SameCall.trans {c c' c'' : Compilation σ} (h : SameCall c c') (h' : SameCall c' c'') :
    SameCall c c'' :=
  ⟨h'.settings.trans h.settings, h'.source.trans h.source, h'.tag.trans h.tag,
    h'.options.trans h.options⟩

/-- No move changes what the compilation was asked to do. -/
lemma Move.sameCall {w w' : World} {c c' : Compilation σ} (h : Move tc w c w' c') :
    SameCall c c' := by
  cases h with
  | @conclude _ _ _ _ _ _ result _ _ => cases result <;> exact ⟨rfl, rfl, rfl, rfl⟩
  | _ => exact ⟨rfl, rfl, rfl, rfl⟩

lemma Move.next {w w' : World} {c c' : Compilation σ} (h : Move tc w c w' c') :
    Next tc (w, c) (w', c') :=
  .step h.step_eq

/-- A state and the state a move leads to come to the same end. -/
lemma ends_of_move {w w₁ w' : World} {c c₁ : Compilation σ} {result : Except Failure Bundle}
    (h : Move tc w c w₁ c₁) : Ends tc (w, c) w' result ↔ Ends tc (w₁, c₁) w' result :=
  ends_of_next h.next

lemma Leads.of_move {w w₁ : World} {c c₁ : Compilation σ} (h : Move tc w c w₁ c₁)
    (idle : c.phase.isAtWork = false) : Leads tc (w, c) (w₁, c₁) :=
  .single ⟨h.next, idle⟩

/-- What follows on the end of a toolchain does not depend on the phase before. -/
lemma concluded_enter (w : World) (c : Compilation σ) (phase : Phase σ) (area : StagingArea)
    (request : Request) (result : Except Failure Report) :
    concluded tc w (c.enter phase) area request result = concluded tc w c area request result := by
  cases result <;> rfl

/-! ### Waiting -/

/-- A compilation waits for a toolchain that waits in time. -/
lemma step_bundling_waiting {w : World} {c : Compilation σ} {area : StagingArea}
    {request : Request} {token : TokenId} {deadline : Option Deadline} {s : σ}
    (h : c.phase = .bundling area request token deadline s)
    (resumed : (tc.resume w request token s).2 = .waiting) (early : isExpired w deadline = none) :
    step tc w c = none := by
  rw [step, h]
  unfold bundle
  rcases hres : tc.resume w request token s with ⟨w₀, turn⟩
  rw [hres] at resumed
  subst resumed
  simp only [hres, early]

/-- A compilation waits for a toolchain that waits after its time. -/
lemma step_stopping_waiting {w : World} {c : Compilation σ} {area : StagingArea}
    {request : Request} {token : TokenId} {limit : Duration} {s : σ}
    (h : c.phase = .stopping area request token limit s)
    (resumed : (tc.resume w request token s).2 = .waiting) : step tc w c = none := by
  rw [step, h]
  unfold stop
  rcases hres : tc.resume w request token s with ⟨w₀, turn⟩
  rw [hres] at resumed
  subst resumed
  simp only [hres]

/-- A compilation waits for the writers of a named pipe. -/
lemma step_collecting_busy {w : World} {c : Compilation σ} {area : StagingArea}
    {request : Request} {report : Report} {pipe : PipeId}
    (h : c.phase = .collecting area request report pipe)
    (busy : w.toMachine.isDrained pipe = false) : step tc w c = none := by
  rw [step, h]
  unfold collect
  simp only [busy, Bool.false_eq_true, if_false]

/-- Every step is a move. -/
lemma move_of_step {w w' : World} {c c' : Compilation σ} (h : step tc w c = some (w', c')) :
    Move tc w c w' c' := by
  have hmove : ∀ {w₁ c₁}, Move tc w c w₁ c₁ → Move tc w c w' c' := by
    intro w₁ c₁ hm
    rw [hm.step_eq] at h
    cases h
    exact hm
  cases hphase : c.phase with
  | ready =>
    cases hcancelled : isCancelled w c.options with
    | true => exact hmove (.refrain hphase hcancelled)
    | false =>
      cases hroot : StagingArea.parentOf w.disk w.cwd c.settings.stagingRoot with
      | error failure => exact hmove (.rootless hphase hcancelled hroot)
      | ok parent => exact hmove (.seek hphase hcancelled hroot)
  | naming parent tries =>
    cases tries with
    | zero => exact hmove (.exhaust hphase)
    | succ tries =>
      cases hattempt : StagingArea.attempt w.disk w.cwd parent (w.names w.drawn) with
      | made area disk => exact hmove (.make hphase hattempt)
      | taken => exact hmove (.skip hphase hattempt)
      | failed fault => exact hmove (.refuse hphase hattempt)
  | staged area =>
    rcases writeEntry_cases area w.disk w.cwd c.extension c.source with
      ⟨fault, failed⟩ | ⟨disk, written⟩
    · exact hmove (.unwritten hphase failed)
    · exact hmove (.invoke hphase written)
  | bundling area request token deadline s =>
    rcases hres : tc.resume w request token s with ⟨w₁, turn⟩
    cases turn with
    | running s' => exact hmove (.work hphase hres)
    | finished result => exact hmove (.conclude hphase hres)
    | waiting =>
      have hwait : (tc.resume w request token s).2 = .waiting := by rw [hres]
      cases hexpired : isExpired w deadline with
      | some limit => exact hmove (.expire hphase hwait hexpired)
      | none => simp [step_bundling_waiting hphase hwait hexpired] at h
  | stopping area request token limit s =>
    rcases hres : tc.resume w request token s with ⟨w₁, turn⟩
    cases turn with
    | running s' => exact hmove (.linger hphase hres)
    | finished result => exact hmove (.halt hphase hres)
    | waiting =>
      have hwait : (tc.resume w request token s).2 = .waiting := by rw [hres]
      simp [step_stopping_waiting hphase hwait] at h
  | reading area request report =>
    cases hpipe : w.toMachine.namedPipe? w.cwd request.bundlePath with
    | none => exact hmove (.read hphase hpipe)
    | some pipe => exact hmove (.listen hphase hpipe)
  | collecting area request report pipe =>
    cases hdrained : w.toMachine.isDrained pipe with
    | true => exact hmove (.collect hphase hdrained)
    | false => simp [step_collecting_busy hphase hdrained] at h
  | closing area outcome =>
    rcases close_cases area w.disk w.cwd with ⟨fault, stuck⟩ | ⟨disk, closed⟩
    · exact hmove (.leave hphase stuck)
    · exact hmove (.remove hphase closed)
  | finished result => simp [step_eq_none_of_finished hphase] at h

/-- A compilation makes a step exactly if it makes a move. -/
lemma step_eq_some_iff {w w' : World} {c c' : Compilation σ} :
    step tc w c = some (w', c') ↔ Move tc w c w' c' :=
  ⟨move_of_step, Move.step_eq⟩

end SnippetForge.Compilation
