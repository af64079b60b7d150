import SnippetForge.Proofs.Compilation.Steps
import SnippetForge.Proofs.Staging.Areas

/-!
# Precedence of failures

The stages of a compilation and its machine agree. Each phase of the machine comes to what the
relations of `Outcome` say about it: the phases without a toolchain by following their few steps,
the phases with one by induction along the transitions in one direction and along the work of the
toolchain in the other. The phases are then put together in their order.

A toolchain is at work in one phase only. The stages before it lead to their ends without that
phase, so a compilation that is cancelled before, or that cannot make its area or write its entry,
never invokes its toolchain.
-/

namespace SnippetForge.Compilation

open StagingArea (search_succ create_cases close_cases writeEntry_cases)

variable {σ : Type} {tc : Toolchain σ}

/-! ### Naming -/

/-- A search for a free name leads to what `search` gives. -/
lemma leads_naming {w : World} {c : Compilation σ} {parent : Place} {tries : Nat}
    (h : c.phase = .naming parent tries) :
    Leads tc (w, c)
      (match StagingArea.search w.disk w.cwd parent w.names tries w.drawn with
      | (drawn, .ok (area, disk)) =>
        (((drawnTo w drawn).withDisk disk).report area.createdLine, c.enter (.staged area))
      | (drawn, .error fault) =>
        (drawnTo w drawn,
          c.enter (.finished (.error (.staging c.settings.stagingRoot fault))))) := by
  induction tries generalizing w c with
  | zero => exact .of_move (.exhaust h) (by simp [h, Phase.isAtWork])
  | succ tries ih =>
    rw [search_succ]
    cases hattempt : StagingArea.attempt w.disk w.cwd parent (w.names w.drawn) with
    | made area disk => exact .of_move (.make h hattempt) (by simp [h, Phase.isAtWork])
    | taken => exact .trans (.of_move (.skip h hattempt) (by simp [h, Phase.isAtWork])) (ih rfl)
    | failed fault => exact .of_move (.refuse h hattempt) (by simp [h, Phase.isAtWork])

/-! ### Closing -/

/-- A compilation that has failed removes its area and gives its failure. -/
lemma leads_closing_error {w : World} {c : Compilation σ} {area : StagingArea}
    {failure : Failure} (h : c.phase = .closing area (.error failure)) :
    Leads tc (w, c) (abandoned w area, c.enter (.finished (.error failure))) := by
  unfold abandoned
  cases hclose : area.close w.disk w.cwd with
  | ok disk => exact .of_move (.remove h hclose) (by simp [h, Phase.isAtWork])
  | error cleanup => exact .of_move (.leave h hclose) (by simp [h, Phase.isAtWork])

lemma ends_closing_error {w w' : World} {c : Compilation σ} {area : StagingArea}
    {failure : Failure} {result : Except Failure Bundle}
    (h : c.phase = .closing area (.error failure)) :
    Ends tc (w, c) w' result ↔ w' = abandoned w area ∧ result = .error failure := by
  rw [(leads_closing_error h).ends_iff, ends_finished rfl]

/-- A compilation that has got its bundle removes its area, and fails if it cannot. -/
lemma ends_closing_ok {w w' : World} {c : Compilation σ} {area : StagingArea}
    {outcome : String × Report} {result : Except Failure Bundle}
    (h : c.phase = .closing area (.ok outcome)) :
    Ends tc (w, c) w' result ↔
      match area.close w.disk w.cwd with
      | .ok disk =>
        w' = (w.withDisk disk).report area.removedLine ∧ result = .ok (bundleOf w c outcome)
      | .error failure => w' = w ∧ result = .error failure := by
  cases hclose : area.close w.disk w.cwd with
  | ok disk => rw [ends_of_move (.remove h hclose), ends_finished rfl]; rfl
  | error failure =>
    rw [ends_of_move (.leave h hclose), ends_finished rfl]
    simp [settle, World.reportAll, Except.map]

/-! ### Stopping and bundling -/

/-- A compilation whose time is up ends once its toolchain has stopped. -/
lemma ends_stopping {w w' : World} {c : Compilation σ} {area : StagingArea} {request : Request}
    {token : TokenId} {limit : Duration} {s : σ} {result : Except Failure Bundle}
    (h : c.phase = .stopping area request token limit s) :
    Ends tc (w, c) w' result ↔
      ∃ w₂ late, Stops tc request token w s w₂ late ∧
        w' = abandoned (w₂.reportAll (lateLines late)) area ∧
        result = .error (.timeout limit) := by
  constructor
  · intro hends
    suffices key : ∀ t : World × Compilation σ, Ends tc t w' result →
        ∀ s, t.2.phase = .stopping area request token limit s →
          ∃ w₂ late, Stops tc request token t.1 s w₂ late ∧
            w' = abandoned (w₂.reportAll (lateLines late)) area ∧
            result = .error (.timeout limit) from key _ hends s h
    intro t ht
    refine ht.induction (motive := fun t => ∀ s, t.2.phase = .stopping area request token limit s →
      ∃ w₂ late, Stops tc request token t.1 s w₂ late ∧
        w' = abandoned (w₂.reportAll (lateLines late)) area ∧ result = .error (.timeout limit)) ?_ ?_
    · intro c hfin s hs
      simp [hfin] at hs
    · rintro ⟨w, c⟩ t hnext hends ih s hs
      simp only at hs
      rcases hres : tc.resume w request token s with ⟨w₁, turn⟩
      cases turn with
      | running s₁ =>
        rw [next_unique hnext (Move.linger hs hres).next] at ih
        obtain ⟨w₂, late, hstops, hend⟩ := ih s₁ rfl
        exact ⟨w₂, late, .running hres hstops, hend⟩
      | waiting =>
        have hstep : step tc w c = none := step_stopping_waiting hs (by rw [hres])
        cases hnext with
        | step hstep' => simp [hstep] at hstep'
        | wait _ _ passed =>
          simp only [deadline?, hs] at passed
          obtain ⟨w₂, late, hstops, hend⟩ := ih s hs
          exact ⟨w₂, late, .wait (by rw [hres]) passed hstops, hend⟩
      | finished late =>
        rw [next_unique hnext (Move.halt hs hres).next, ends_closing_error rfl] at hends
        exact ⟨w₁, late, .finish hres, hends⟩
  · rintro ⟨w₂, late, hstops, rfl, rfl⟩
    induction hstops generalizing c with
    | @finish w w₁ s late hres =>
      rw [ends_of_move (.halt h hres), ends_closing_error rfl]
      exact ⟨rfl, rfl⟩
    | @running w w₁ w' s s₁ late hres _ ih =>
      rw [ends_of_move (.linger h hres)]
      exact ih rfl
    | @wait w w₁ w' s late hwait passed _ ih =>
      have hstep : step tc w c = none := step_stopping_waiting h hwait
      have unfinished : c.result? = none := by simp [result?, h]
      have hdeadline : c.deadline?.toList = [] := by simp [deadline?, h]
      rw [ends_of_next (.wait unfinished hstep (hdeadline ▸ passed))]
      exact ih h

/-- The phase and the world after a toolchain has come to its end. -/
def afterEnding (tc : Toolchain σ) (w : World) (c : Compilation σ) (area : StagingArea)
    (request : Request) : Ending → World × Compilation σ
  | .inTime result => concluded tc w c area request result
  | .late limit result =>
    (w.reportAll (lateLines result), c.enter (.closing area (.error (.timeout limit))))

/-- A compilation whose toolchain is at work goes on after the end of that work. -/
lemma ends_bundling {w w' : World} {c : Compilation σ} {area : StagingArea} {request : Request}
    {token : TokenId} {deadline : Option Deadline} {s : σ} {result : Except Failure Bundle}
    (h : c.phase = .bundling area request token deadline s) :
    Ends tc (w, c) w' result ↔
      ∃ w₂ ending, Works tc request token deadline w s w₂ ending ∧
        Ends tc (afterEnding tc w₂ c area request ending) w' result := by
  have hdeadline : ∀ {c : Compilation σ} {s : σ},
      c.phase = .bundling area request token deadline s →
        c.deadline? = deadline.map (·.time) := by
    intro c s h
    cases deadline <;> simp [deadline?, h]
  constructor
  · intro hends
    suffices key : ∀ t : World × Compilation σ, Ends tc t w' result →
        ∀ s, t.2 = c.enter (.bundling area request token deadline s) →
          ∃ w₂ ending, Works tc request token deadline t.1 s w₂ ending ∧
            Ends tc (afterEnding tc w₂ c area request ending) w' result from
      key _ hends s (by rw [enter, ← h])
    intro t ht
    refine ht.induction (motive := fun t => ∀ s,
      t.2 = c.enter (.bundling area request token deadline s) →
        ∃ w₂ ending, Works tc request token deadline t.1 s w₂ ending ∧
          Ends tc (afterEnding tc w₂ c area request ending) w' result) ?_ ?_
    · rintro c' hfin s rfl
      simp [enter] at hfin
    · rintro ⟨w, c'⟩ t hnext hends ih s rfl
      rcases hres : tc.resume w request token s with ⟨w₁, turn⟩
      cases turn with
      | running s₁ =>
        rw [next_unique hnext (Move.work rfl hres).next] at ih
        obtain ⟨w₂, ending, hworks, hend⟩ := ih s₁ rfl
        exact ⟨w₂, ending, .running hres hworks, hend⟩
      | finished result₁ =>
        rw [next_unique hnext (Move.conclude rfl hres).next, concluded_enter] at hends
        exact ⟨w₁, .inTime result₁, .finish hres, hends⟩
      | waiting =>
        cases hexp : isExpired w deadline with
        | some limit =>
          rw [next_unique hnext (Move.expire rfl (by rw [hres]) hexp).next, ends_stopping rfl]
            at hends
          obtain ⟨w₂, late, hstops, hend⟩ := hends
          refine ⟨w₂, .late limit late, .expire (by rw [hres]) hexp hstops, ?_⟩
          exact (ends_closing_error rfl).mpr hend
        | none =>
          have hstep : step tc w (c.enter (.bundling area request token deadline s)) = none :=
            step_bundling_waiting rfl (by rw [hres]) hexp
          cases hnext with
          | step hstep' => simp [hstep] at hstep'
          | wait _ _ passed =>
            rw [hdeadline rfl] at passed
            obtain ⟨w₂, ending, hworks, hend⟩ := ih s rfl
            exact ⟨w₂, ending, .wait (by rw [hres]) hexp passed hworks, hend⟩
  · rintro ⟨w₂, ending, hworks, hend⟩
    have hc : c = c.enter (.bundling area request token deadline s) := by rw [enter, ← h]
    rw [hc]
    clear hc h
    induction hworks with
    | @finish w w₁ s result₁ hres =>
      rw [ends_of_move (.conclude rfl hres), concluded_enter]
      exact hend
    | @running w w₁ w' s s₁ ending hres _ ih =>
      rw [ends_of_move (.work rfl hres)]
      exact ih hend
    | @wait w w₁ w' s ending hwait early passed _ ih =>
      have hstep : step tc w (c.enter (.bundling area request token deadline s)) = none :=
        step_bundling_waiting rfl hwait early
      rw [ends_of_next (.wait rfl hstep (by rw [hdeadline rfl]; exact passed))]
      exact ih hend
    | @expire w w₁ s limit late hwait expired hstops =>
      rw [ends_of_move (.expire rfl hwait expired), ends_stopping rfl]
      exact ⟨w₁, late, hstops, (ends_closing_error rfl).mp hend⟩

/-! ### Reading -/

/-- A compilation that collects a named pipe goes on once that is done. -/
lemma ends_collecting {w w' : World} {c : Compilation σ} {area : StagingArea} {request : Request}
    {report : Report} {pipe : PipeId} {result : Except Failure Bundle}
    (h : c.phase = .collecting area request report pipe) :
    Ends tc (w, c) w' result ↔
      ∃ w₂ bytes, Collects pipe w w₂ bytes ∧
        Ends tc (w₂, c.enter (.closing area
          (bundleOutcome request report (Disk.textOf bytes)))) w' result := by
  have hdeadline : c.deadline?.toList = [] := by simp [deadline?, h]
  constructor
  · intro hends
    suffices key : ∀ t : World × Compilation σ, Ends tc t w' result → t.2 = c →
        ∃ w₂ bytes, Collects pipe t.1 w₂ bytes ∧
          Ends tc (w₂, c.enter (.closing area
            (bundleOutcome request report (Disk.textOf bytes)))) w' result from key _ hends rfl
    intro t ht
    refine ht.induction (motive := fun t => t.2 = c →
      ∃ w₂ bytes, Collects pipe t.1 w₂ bytes ∧
        Ends tc (w₂, c.enter (.closing area
          (bundleOutcome request report (Disk.textOf bytes)))) w' result) ?_ ?_
    · intro c' hfin hc
      rw [show c' = c from hc, h] at hfin
      cases hfin
    · rintro ⟨w, c'⟩ t hnext hrest ih hc
      obtain rfl : c' = c := hc
      cases hdrained : w.toMachine.isDrained pipe with
      | true =>
        rw [next_unique hnext (Move.collect h hdrained).next] at hrest
        exact ⟨_, _, .done hdrained, hrest⟩
      | false =>
        cases hnext with
        | step hstep' => simp [step_collecting_busy h hdrained] at hstep'
        | wait _ _ passed =>
          rw [hdeadline] at passed
          obtain ⟨w₂, bytes, hcollects, hend⟩ := ih rfl
          exact ⟨w₂, bytes, .wait hdrained passed hcollects, hend⟩
  · rintro ⟨w₂, bytes, hcollects, hend⟩
    induction hcollects with
    | done drained => exact (ends_of_move (.collect h drained)).mpr hend
    | wait busy passed _ ih =>
      have unfinished : c.result? = none := by simp [result?, h]
      rw [ends_of_next (.wait unfinished (step_collecting_busy h busy) (hdeadline ▸ passed))]
      exact ih hend

/-- A compilation with a report reads the bundle and closes. -/
lemma ends_reading {w w' : World} {c : Compilation σ} {area : StagingArea} {request : Request}
    {report : Report} {result : Except Failure Bundle}
    (h : c.phase = .reading area request report) :
    Ends tc (w, c) w' result ↔
      ∃ w₃ text, ReadsBundle request.bundlePath w w₃ text ∧
        Ends tc (w₃, c.enter (.closing area (bundleOutcome request report text))) w' result := by
  cases hpipe : w.toMachine.namedPipe? w.cwd request.bundlePath with
  | none =>
    rw [ends_of_move (.read h hpipe)]
    constructor
    · exact fun hend => ⟨w, _, .file hpipe, hend⟩
    · rintro ⟨w₃, text, hreads, hend⟩
      cases hreads with
      | file _ => exact hend
      | pipe named _ => simp [hpipe] at named
  | some pipe =>
    rw [ends_of_move (.listen h hpipe), ends_collecting rfl]
    constructor
    · rintro ⟨w₃, bytes, hcollects, hend⟩
      exact ⟨w₃, _, .pipe hpipe hcollects, hend⟩
    · rintro ⟨w₃, text, hreads, hend⟩
      cases hreads with
      | file regular => simp [hpipe] at regular
      | @pipe _ pipe' bytes named collected =>
        rw [hpipe, Option.some.injEq] at named
        subst named
        exact ⟨w₃, bytes, collected, hend⟩

/-- The bundle that is asked for is the bundle of the area. -/
lemma bundlePath_requestOf (settings : Settings) (tag : String) (area : StagingArea) :
    (requestOf settings tag area).bundlePath = area.bundlePath := rfl

/-- A compilation whose toolchain has returned a report reads the bundle. -/
lemma ends_afterEnding_report {w w' : World} {c : Compilation σ} {area : StagingArea}
    {report : Report} {result : Except Failure Bundle} :
    Ends tc (afterEnding tc w c area (requestOf c.settings c.tag area) (.inTime (.ok report)))
        w' result ↔
      ∃ w₃ text, ReadsBundle area.bundlePath (reported tc w report) w₃ text ∧
        Ends tc (w₃, c.enter (.closing area
          (bundleOutcome (requestOf c.settings c.tag area) report text))) w' result := by
  rw [← bundlePath_requestOf c.settings c.tag area]
  exact ends_reading rfl

/-! ### The stages before the toolchain -/

attribute [local irreducible] StagingArea.writeEntry in
/-- An entry that cannot be written is the end, after the area has been removed. -/
lemma leads_unwritten {w : World} {c : Compilation σ} {area : StagingArea} {failure : Failure}
    (h : c.phase = .staged area)
    (unwritten : area.writeEntry w.disk w.cwd c.extension c.source = .error failure) :
    Leads tc (w, c) (abandoned w area, c.enter (.finished (.error failure))) := by
  exact .trans (.of_move (.unwritten h unwritten) (by simp [h, Phase.isAtWork]))
    (leads_closing_error rfl)

/-- A toolchain is invoked once its entry has been written. -/
lemma invoked_of_written {w : World} {c : Compilation σ} {area : StagingArea} {disk : Disk}
    (h : c.phase = .staged area)
    (written : area.writeEntry w.disk w.cwd c.extension c.source
      = .ok (area.entryPath c.extension, disk)) : Invoked tc (w, c) :=
  ⟨_, .single (Move.invoke h written).next, rfl⟩

/-- A compilation with a staging area writes the entry and has the toolchain work on it. -/
lemma ends_staged {w w' : World} {c : Compilation σ} {area : StagingArea}
    {result : Except Failure Bundle} (h : c.phase = .staged area) :
    Ends tc (w, c) w' result ↔
      (∃ fault, area.writeEntry w.disk w.cwd c.extension c.source
          = .error (.staging (area.entryPath c.extension) fault) ∧
        w' = abandoned w area ∧
        result = .error (.staging (area.entryPath c.extension) fault)) ∨
      ∃ w₂ ending, Invokes tc c.settings c.source c.tag c.options area w w₂ ending ∧
        Ends tc (afterEnding tc w₂ c area (requestOf c.settings c.tag area) ending)
          w' result := by
  rcases writeEntry_cases area w.disk w.cwd c.extension c.source with
    ⟨fault, unwritten⟩ | ⟨disk, written⟩
  · rw [(leads_unwritten h unwritten).ends_iff, ends_finished rfl]
    constructor
    · exact fun hend => .inl ⟨fault, unwritten, hend⟩
    · rintro (⟨fault', unwritten', hend⟩ | ⟨w₂, ending, ⟨written, -⟩, -⟩)
      · rw [unwritten] at unwritten'
        cases unwritten'
        exact hend
      · rw [extension, written] at unwritten
        cases unwritten
  · rw [ends_of_move (.invoke h written), ends_bundling rfl]
    constructor
    · rintro ⟨w₂, ending, worked, hend⟩
      exact .inr ⟨w₂, ending, .intro written worked, hend⟩
    · rintro (⟨fault', unwritten, -⟩ | ⟨w₂, ending, ⟨written', worked⟩, hend⟩)
      · rw [written] at unwritten
        cases unwritten
      · rw [extension, written'] at written
        cases written
        exact ⟨w₂, ending, worked, hend⟩

/-- A compilation that has been cancelled before ends at once. -/
lemma leads_new_cancelled {settings : Settings} {source tag : String} {options : CompileOptions}
    {w : World} (h : isCancelled w options = true) :
    Leads tc (w, new settings source tag options)
      (w, (new settings source tag options).enter (.finished (.error .cancelled))) := by
  exact .of_move (.refrain rfl h) rfl

/-- A compilation that has not been cancelled tries to make its area. -/
lemma leads_new_live (tc : Toolchain σ) (settings : Settings) (source tag : String)
    {options : CompileOptions} {w : World} (h : isCancelled w options = false) :
    Leads tc (w, new settings source tag options)
      (match StagingArea.create w.disk w.cwd settings.stagingRoot w.names w.drawn with
      | (drawn, .ok (area, disk)) =>
        (((drawnTo (opened w tag) drawn).withDisk disk).report area.createdLine,
          ⟨settings, source, tag, options, w.clock, .staged area⟩)
      | (drawn, .error failure) =>
        (drawnTo (opened w tag) drawn,
          ⟨settings, source, tag, options, w.clock, .finished (.error failure)⟩)) := by
  cases hparent : StagingArea.parentOf w.disk w.cwd settings.stagingRoot with
  | error failure =>
    rw [StagingArea.create, hparent]
    exact .of_move (.rootless rfl h hparent) rfl
  | ok parent =>
    have hnaming := @leads_naming σ tc (opened w tag)
      ⟨settings, source, tag, options, w.clock, .naming parent StagingArea.maxTries⟩ _ _ rfl
    have hsearch : StagingArea.search (opened w tag).disk (opened w tag).cwd parent
        (opened w tag).names StagingArea.maxTries (opened w tag).drawn
        = StagingArea.search w.disk w.cwd parent w.names StagingArea.maxTries w.drawn := rfl
    rw [hsearch] at hnaming
    rw [StagingArea.create, hparent]
    refine Leads.trans (.of_move (.seek rfl h hparent) rfl) ?_
    rcases hfound : StagingArea.search w.disk w.cwd parent w.names StagingArea.maxTries w.drawn
      with ⟨drawn, _ | ⟨area, disk⟩⟩
    all_goals
      rw [hfound] at hnaming
      simp only [hfound]
      exact hnaming

/-! ### The outcome -/

/-- A limit that is reached is the one in force. -/
lemma limitOf_of_works {request : Request} {token : TokenId} {w₀ w w' : World} {s : σ}
    {settings : Settings} {options : CompileOptions} {limit : Duration}
    {late : Except Failure Report}
    (h : Works tc request token (deadlineFrom w₀ settings options) w s w' (.late limit late)) :
    limitOf settings options = some limit := by
  generalize hending : Ending.late limit late = ending at h
  induction h with
  | finish _ => cases hending
  | running _ _ ih => exact ih hending
  | wait _ _ _ _ ih => exact ih hending
  | expire _ expired _ =>
    cases hending
    unfold deadlineFrom at expired
    cases hlimit : limitOf settings options with
    | none => simp [hlimit, isExpired] at expired
    | some limit' =>
      simp only [hlimit, Option.map_some, isExpired] at expired
      split at expired
      · rw [Option.some.inj expired]
      · cases expired

attribute [local irreducible] StagingArea.writeEntry in
/-- What follows on a staging area is the outcome of one of the later stages. -/
lemma exists_outcome_of_ends_staged {settings : Settings} {source tag : String}
    {options : CompileOptions} {w w₁ w' : World} {area : StagingArea}
    {result : Except Failure Bundle} (created : Creates settings tag options w area w₁)
    (h : Ends tc (w₁, ⟨settings, source, tag, options, w.clock, .staged area⟩) w' result) :
    ∃ stage, Outcome tc settings source tag options w stage w' result := by
  rcases (ends_staged rfl).mp h with ⟨fault, unwritten, rfl, rfl⟩ | ⟨w₂, ending, invoked, hend⟩
  · exact ⟨.entry, .entry created unwritten⟩
  cases ending with
  | late limit late =>
    obtain ⟨rfl, rfl⟩ := (ends_closing_error rfl).mp hend
    obtain ⟨-, worked⟩ := id invoked
    exact ⟨.limit, .limit (limitOf_of_works worked) created invoked⟩
  | inTime answer =>
    cases answer with
    | error failure =>
      obtain ⟨rfl, rfl⟩ := (ends_closing_error rfl).mp hend
      exact ⟨.toolchain, .toolchain created invoked⟩
    | ok report =>
      obtain ⟨w₃, text, hread, hend⟩ := ends_afterEnding_report.mp hend
      cases text with
      | error fault =>
        obtain ⟨rfl, rfl⟩ := (ends_closing_error rfl).mp hend
        exact ⟨.bundle, .bundle created invoked hread⟩
      | ok code =>
        have hend := (ends_closing_ok rfl).mp hend
        rcases close_cases area w₃.disk w₃.cwd with ⟨fault, stuck⟩ | ⟨disk, removed⟩
        · rw [stuck] at hend
          obtain ⟨rfl, rfl⟩ := hend
          exact ⟨.removal, .removal created invoked hread stuck⟩
        · rw [removed] at hend
          obtain ⟨rfl, rfl⟩ := hend
          exact ⟨.success, .success created invoked hread removed⟩

/-- A compilation that makes its area is led to the phase in which it has one. -/
lemma Creates.leads {settings : Settings} {source tag : String} {options : CompileOptions}
    {w w₁ : World} {area : StagingArea} (h : Creates settings tag options w area w₁) :
    Leads tc (w, new settings source tag options)
      (w₁, ⟨settings, source, tag, options, w.clock, .staged area⟩) := by
  obtain ⟨live, made⟩ := h
  have hleads := leads_new_live tc settings source tag live
  rw [made] at hleads
  exact hleads

attribute [local irreducible] StagingArea.writeEntry in
/-- Every outcome is what a compilation ends in. -/
lemma Outcome.ends {settings : Settings} {source tag : String} {options : CompileOptions}
    {w w' : World} {stage : Stage} {result : Except Failure Bundle}
    (h : Outcome tc settings source tag options w stage w' result) :
    Ends tc (w, new settings source tag options) w' result := by
  cases h with
  | token cancelled =>
    exact (leads_new_cancelled cancelled).ends_iff.mpr ((ends_finished rfl).mpr ⟨rfl, rfl⟩)
  | creation live refused =>
    have hleads := leads_new_live tc settings source tag live
    rw [refused] at hleads
    exact hleads.ends_iff.mpr ((ends_finished rfl).mpr ⟨rfl, rfl⟩)
  | entry created unwritten =>
    exact created.leads.ends_iff.mpr ((ends_staged rfl).mpr (.inl ⟨_, unwritten, rfl, rfl⟩))
  | limit _ created invoked =>
    refine created.leads.ends_iff.mpr ((ends_staged rfl).mpr (.inr ⟨_, _, invoked, ?_⟩))
    exact (ends_closing_error rfl).mpr ⟨rfl, rfl⟩
  | toolchain created invoked =>
    refine created.leads.ends_iff.mpr ((ends_staged rfl).mpr (.inr ⟨_, _, invoked, ?_⟩))
    exact (ends_closing_error rfl).mpr ⟨rfl, rfl⟩
  | bundle created invoked unread =>
    refine created.leads.ends_iff.mpr ((ends_staged rfl).mpr (.inr ⟨_, _, invoked, ?_⟩))
    refine ends_afterEnding_report.mpr ⟨_, _, unread, ?_⟩
    exact (ends_closing_error rfl).mpr ⟨rfl, rfl⟩
  | removal created invoked read stuck =>
    refine created.leads.ends_iff.mpr ((ends_staged rfl).mpr (.inr ⟨_, _, invoked, ?_⟩))
    refine ends_afterEnding_report.mpr ⟨_, _, read, (ends_closing_ok rfl).mpr ?_⟩
    rw [stuck]
    exact ⟨rfl, rfl⟩
  | success created invoked read removed =>
    refine created.leads.ends_iff.mpr ((ends_staged rfl).mpr (.inr ⟨_, _, invoked, ?_⟩))
    refine ends_afterEnding_report.mpr ⟨_, _, read, (ends_closing_ok rfl).mpr ?_⟩
    rw [removed]
    exact ⟨rfl, rfl⟩

/-- What a compilation ends in is an outcome. -/
lemma exists_outcome_of_ends {settings : Settings} {source tag : String}
    {options : CompileOptions} {w w' : World} {result : Except Failure Bundle}
    (h : Ends tc (w, new settings source tag options) w' result) :
    ∃ stage, Outcome tc settings source tag options w stage w' result := by
  cases hcancelled : isCancelled w options with
  | true =>
    obtain ⟨rfl, rfl⟩ := (ends_finished rfl).mp ((leads_new_cancelled hcancelled).ends_iff.mp h)
    exact ⟨.token, .token hcancelled⟩
  | false =>
    rcases create_cases w.disk w.cwd settings.stagingRoot w.names w.drawn with
      ⟨drawn, fault, refused⟩ | ⟨drawn, area, disk, made⟩
    · have hleads := leads_new_live tc settings source tag hcancelled
      rw [refused] at hleads
      obtain ⟨rfl, rfl⟩ := (ends_finished rfl).mp (hleads.ends_iff.mp h)
      exact ⟨.creation, .creation hcancelled refused⟩
    · have created : Creates settings tag options w area _ := .intro hcancelled made
      exact exists_outcome_of_ends_staged created (created.leads.ends_iff.mp h)

attribute [local irreducible] StagingArea.writeEntry in
/-- The toolchain is invoked exactly in the outcomes of the stages from its limit on. -/
lemma Outcome.invoked_iff {settings : Settings} {source tag : String} {options : CompileOptions}
    {w w' : World} {stage : Stage} {result : Except Failure Bundle}
    (h : Outcome tc settings source tag options w stage w' result) :
    Invoked tc (w, new settings source tag options) ↔ stage.isInvoked = true := by
  have hstaged : ∀ {area : StagingArea} {w₁ w₂ : World} {ending : Ending},
      Creates settings tag options w area w₁ →
        Invokes tc settings source tag options area w₁ w₂ ending →
          Invoked tc (w, new settings source tag options) := by
    rintro area w₁ w₂ ending created ⟨hwritten, -⟩
    exact created.leads.invoked_iff.mpr (invoked_of_written rfl hwritten)
  cases h with
  | token cancelled =>
    rw [(leads_new_cancelled cancelled).invoked_iff]
    simp [not_invoked_of_finished (c := (new settings source tag options).enter _) rfl,
      Stage.isInvoked]
  | creation live refused =>
    have hleads := leads_new_live tc settings source tag live
    rw [refused] at hleads
    rw [hleads.invoked_iff]
    exact iff_of_false (not_invoked_of_finished rfl) (by simp [Stage.isInvoked])
  | entry created unwritten =>
    rw [created.leads.invoked_iff, (leads_unwritten rfl unwritten).invoked_iff]
    exact iff_of_false (not_invoked_of_finished rfl) (by simp [Stage.isInvoked])
  | limit _ created invoked => exact iff_of_true (hstaged created invoked) rfl
  | toolchain created invoked => exact iff_of_true (hstaged created invoked) rfl
  | bundle created invoked _ => exact iff_of_true (hstaged created invoked) rfl
  | removal created invoked _ _ => exact iff_of_true (hstaged created invoked) rfl
  | success created invoked _ _ => exact iff_of_true (hstaged created invoked) rfl

/-- What a compilation returns is decided by the first of its stages that fails: with enough fuel
it returns exactly the outcomes of its stages. The toolchain is invoked if and only if the
stages before it, the token, the staging directory and the entry, have all gone well. -/
theorem exists_run_iff_outcome (tc : Toolchain σ) (settings : Settings) (source tag : String)
    (options : CompileOptions) (w w' : World) (result : Except Failure Bundle) :
    ((∃ fuel, run tc fuel w (new settings source tag options) = .ok (w', result)) ↔
      ∃ stage, Outcome tc settings source tag options w stage w' result) ∧
    ∀ stage, Outcome tc settings source tag options w stage w' result →
      (Invoked tc (w, new settings source tag options) ↔ stage.isInvoked = true) :=
  ⟨exists_run_iff_ends.trans ⟨exists_outcome_of_ends, fun ⟨_, h⟩ => h.ends⟩,
    fun _ h => h.invoked_iff⟩

end SnippetForge.Compilation
