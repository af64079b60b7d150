import SnippetForge.Proofs.Compilation.Precedence
import SnippetForge.Proofs.Requests
import SnippetForge.Proofs.Webpack.Outcomes

/-!
# What a program does in a call

All that the toolchain learns about its program is whether it can be started, how it ends and what
comes out of its two streams, or that its time is up before that. This is its *conduct* in a call.
`Watches` and `Conducts` follow it from the world in which the toolchain is started. The work of the
toolchain is nothing else: it comes to an end exactly if the program has some conduct, and its answer
depends on the conduct only.

A *behaviour* adds what the program leaves: what is found where the bundle is expected, and whether
the area can be removed. These count only if the program has succeeded.
-/

namespace SnippetForge.Webpack

open Compilation (Works Stops Ending Creates Invokes ReadsBundle Stage isExpired expiredLine reported
  requestOf deadlineFrom invocation limitOf)

/-! ### Conduct -/

/-- What becomes of the program in a call. -/
inductive Conduct
  /-- It cannot be started. -/
  | refused (fault : Fault)
  /-- It has ended with both of its streams closed, or the supervisor has given up. -/
  | supervised (verdict : Verdict)
  /-- Its time is up before that. -/
  | overrun

/-- Whether the program has succeeded. -/
def Conduct.isSuccess : Conduct → Bool
  | .supervised (.completed status _ _) => status.isSuccess
  | _ => false

/-- How the toolchain ends after a conduct of its program, under a limit. -/
inductive Conduct.EndsAs (program : Path) (limit? : Option Duration) : Conduct → Ending → Prop
  | refused (fault : Fault) :
      EndsAs program limit? (.refused fault) (.inTime (.error (spawnFailure program fault)))
  | supervised (verdict : Verdict) :
      EndsAs program limit? (.supervised verdict) (.inTime verdict.result)
  | overrun {limit : Duration} {result : Except Failure Report} (inForce : limit? = some limit) :
      EndsAs program limit? .overrun (.late limit result)

section

variable (program projectRoot : Path) (request : Request) (token : TokenId)
  (deadline : Option Deadline)

/-- A supervision goes on from a world until it is decided or the time is up. -/
inductive Watches (child : Machine.Child) : World → Supervision → World → Conduct → Prop
  | decided {w : World} {s : Supervision} {verdict : Verdict} (h : s.verdict = some verdict) :
      Watches child w s (w.reportAll verdict.log) (.supervised verdict)
  | see {w w₁ w' : World} {s : Supervision} {event : Event} {conduct : Conduct}
      (undecided : s.verdict = none) (next : nextEvent? w token child s = some (w₁, event))
      (rest : Watches child (w₁.reportAll (s.eventLines event)) (s.step event) w' conduct) :
      Watches child w s w' conduct
  | wait {w w₁ w' : World} {s : Supervision} {conduct : Conduct} (undecided : s.verdict = none)
      (nothing : nextEvent? w token child s = none) (early : isExpired w deadline = none)
      (passed : w.advance? (deadline.map (·.time)).toList = some w₁)
      (rest : Watches child w₁ s w' conduct) : Watches child w s w' conduct
  | overrun {w w' : World} {s : Supervision} {limit : Duration} {late : Except Failure Report}
      (undecided : s.verdict = none) (nothing : nextEvent? w token child s = none)
      (expired : isExpired w deadline = some limit)
      (rest : Stops (.webpack program projectRoot) request token
        ((w.report (expiredLine "webpack" limit)).withTokens (w.tokens.fire token))
        (.supervised child s) w' late) :
      Watches child w s w' .overrun

/-- What is to be started for a request. -/
def startFor (w : World) : Machine.Start :=
  ⟨projectRoot, program, ["-e", driverScript], environmentFor w request⟩

/-- The conduct of the program that is started in a world. -/
inductive Conducts (w : World) : World → Conduct → Prop
  | refused {fault : Fault}
      (h : w.toMachine.spawn w.cwd (startFor program projectRoot request w) = .error fault) :
      Conducts w w (.refused fault)
  | started {m : Machine} {child : Machine.Child} {w' : World} {conduct : Conduct}
      (h : w.toMachine.spawn w.cwd (startFor program projectRoot request w) = .ok (m, child))
      (watched : Watches program projectRoot request token deadline child (w.withMachine m) .started
        w' conduct) :
      Conducts w w' conduct

end

variable {program projectRoot : Path} {request : Request} {token : TokenId}
  {deadline : Option Deadline} {child : Machine.Child} {w w' : World} {s : Supervision}

lemma resume_decided {verdict : Verdict} (h : s.verdict = some verdict) :
    (Toolchain.webpack program projectRoot).resume w request token (.supervised child s) =
      (w.reportAll verdict.log, .finished verdict.result) := by
  simp only [Toolchain.webpack, resume, h]

lemma resume_see {event : Event} (undecided : s.verdict = none)
    (next : nextEvent? w token child s = some (w', event)) :
    (Toolchain.webpack program projectRoot).resume w request token (.supervised child s) =
      (w'.reportAll (s.eventLines event), .running (.supervised child (s.step event))) := by
  simp only [Toolchain.webpack, resume, undecided, next]

lemma resume_wait (undecided : s.verdict = none) (nothing : nextEvent? w token child s = none) :
    (Toolchain.webpack program projectRoot).resume w request token (.supervised child s) =
      (w, .waiting) := by
  simp only [Toolchain.webpack, resume, undecided, nothing]

/-- A supervisor that is resumed is decided, sees an event, or has to wait. -/
lemma resume_cases (program projectRoot : Path) (request : Request) (token : TokenId)
    (child : Machine.Child) (w : World) (s : Supervision) :
    (∃ verdict, s.verdict = some verdict ∧
      (Toolchain.webpack program projectRoot).resume w request token (.supervised child s) =
        (w.reportAll verdict.log, .finished verdict.result)) ∨
    (∃ w' event, s.verdict = none ∧ nextEvent? w token child s = some (w', event) ∧
      (Toolchain.webpack program projectRoot).resume w request token (.supervised child s) =
        (w'.reportAll (s.eventLines event), .running (.supervised child (s.step event)))) ∨
    (s.verdict = none ∧ nextEvent? w token child s = none ∧
      (Toolchain.webpack program projectRoot).resume w request token (.supervised child s) =
        (w, .waiting)) := by
  cases hverdict : s.verdict with
  | some verdict => exact .inl ⟨verdict, rfl, resume_decided hverdict⟩
  | none =>
    cases hnext : nextEvent? w token child s with
    | some found => exact .inr (.inl ⟨found.1, found.2, rfl, rfl, resume_see hverdict hnext⟩)
    | none => exact .inr (.inr ⟨rfl, rfl, resume_wait hverdict hnext⟩)

/-- A limit that is reached is the one of the deadline. -/
lemma limit_of_isExpired {limit : Duration} (h : isExpired w deadline = some limit) :
    deadline.map (·.limit) = some limit := by
  unfold isExpired at h
  cases deadline with
  | none => cases h
  | some deadline =>
    simp only at h
    split at h
    · exact h
    · cases h

/-- A toolchain whose program could not be started fails at once. -/
lemma eq_of_works_refused {failure : Failure} {ending : Ending}
    (h : Works (.webpack program projectRoot) request token deadline w (.refused failure) w'
      ending) : w' = w ∧ ending = .inTime (.error failure) := by
  cases h with
  | finish h =>
    cases h
    exact ⟨rfl, rfl⟩
  | running h _ => cases h
  | wait h _ _ _ => cases h
  | expire h _ _ => cases h

/-- The toolchain works as long as it watches its program. -/
lemma Watches.works {conduct : Conduct}
    (h : Watches program projectRoot request token deadline child w s w' conduct) :
    ∃ ending, conduct.EndsAs program (deadline.map (·.limit)) ending ∧
      Works (.webpack program projectRoot) request token deadline w (.supervised child s) w'
        ending := by
  induction h with
  | decided h => exact ⟨_, .supervised _, .finish (resume_decided h)⟩
  | see undecided next _ ih =>
    obtain ⟨ending, hends, hworks⟩ := ih
    exact ⟨ending, hends, .running (resume_see undecided next) hworks⟩
  | wait undecided nothing early passed _ ih =>
    obtain ⟨ending, hends, hworks⟩ := ih
    exact ⟨ending, hends, .wait (by rw [resume_wait undecided nothing]) early passed hworks⟩
  | overrun undecided nothing expired rest =>
    exact ⟨_, .overrun (limit_of_isExpired expired),
      .expire (by rw [resume_wait undecided nothing]) expired rest⟩

/-- While the toolchain works it watches its program. -/
lemma exists_watches_of_works {state : RunState} {ending : Ending}
    (h : Works (.webpack program projectRoot) request token deadline w state w' ending)
    (hstate : state = .supervised child s) :
    ∃ conduct, conduct.EndsAs program (deadline.map (·.limit)) ending ∧
      Watches program projectRoot request token deadline child w s w' conduct := by
  induction h generalizing s with
  | finish h =>
    subst hstate
    obtain ⟨verdict, hverdict, hresume⟩ | ⟨_, _, -, -, hresume⟩ | ⟨-, -, hresume⟩ :=
      resume_cases program projectRoot request token child _ s <;> rw [hresume] at h <;> cases h
    exact ⟨_, .supervised verdict, .decided hverdict⟩
  | running h _ ih =>
    subst hstate
    obtain ⟨_, -, hresume⟩ | ⟨_, event, hundecided, hnext, hresume⟩ | ⟨-, -, hresume⟩ :=
      resume_cases program projectRoot request token child _ s <;> rw [hresume] at h <;> cases h
    obtain ⟨conduct, hends, hwatches⟩ := ih rfl
    exact ⟨conduct, hends, .see hundecided hnext hwatches⟩
  | wait h early passed _ ih =>
    subst hstate
    obtain ⟨_, -, hresume⟩ | ⟨_, _, -, -, hresume⟩ | ⟨hundecided, hnothing, -⟩ :=
      resume_cases program projectRoot request token child _ s
    · rw [hresume] at h
      cases h
    · rw [hresume] at h
      cases h
    · obtain ⟨conduct, hends, hwatches⟩ := ih rfl
      exact ⟨conduct, hends, .wait hundecided hnothing early passed hwatches⟩
  | expire h expired rest =>
    subst hstate
    obtain ⟨_, -, hresume⟩ | ⟨_, _, -, -, hresume⟩ | ⟨hundecided, hnothing, -⟩ :=
      resume_cases program projectRoot request token child _ s
    · rw [hresume] at h
      cases h
    · rw [hresume] at h
      cases h
    · exact ⟨_, .overrun (limit_of_isExpired expired), .overrun hundecided hnothing expired rest⟩

/-- What the toolchain makes of a program that can be started, and of one that cannot. -/
lemma start_eq (program projectRoot : Path) (request : Request) (token : TokenId) (w : World) :
    (Toolchain.webpack program projectRoot).start w request token =
      match w.toMachine.spawn w.cwd (startFor program projectRoot request w) with
      | .ok (m, child) => (w.withMachine m, .supervised child .started)
      | .error fault => (w, .refused (spawnFailure program fault)) :=
  rfl

/-- If the program has some conduct, the toolchain comes to an end as the conduct tells. -/
lemma Conducts.works {conduct : Conduct}
    (h : Conducts program projectRoot request token deadline w w' conduct) :
    ∃ ending, conduct.EndsAs program (deadline.map (·.limit)) ending ∧
      Works (.webpack program projectRoot) request token deadline
        ((Toolchain.webpack program projectRoot).start w request token).1
        ((Toolchain.webpack program projectRoot).start w request token).2 w' ending := by
  cases h with
  | refused h =>
    rw [start_eq, h]
    exact ⟨_, .refused _, .finish rfl⟩
  | started h watched =>
    rw [start_eq, h]
    exact watched.works

/-- If the toolchain comes to an end, its program has had the conduct that tells so. -/
lemma exists_conducts_of_works {ending : Ending}
    (h : Works (.webpack program projectRoot) request token deadline
      ((Toolchain.webpack program projectRoot).start w request token).1
      ((Toolchain.webpack program projectRoot).start w request token).2 w' ending) :
    ∃ conduct, conduct.EndsAs program (deadline.map (·.limit)) ending ∧
      Conducts program projectRoot request token deadline w w' conduct := by
  rw [start_eq] at h
  cases hspawn : w.toMachine.spawn w.cwd (startFor program projectRoot request w) with
  | error fault =>
    rw [hspawn] at h
    obtain ⟨rfl, rfl⟩ := eq_of_works_refused h
    exact ⟨_, .refused fault, .refused hspawn⟩
  | ok started =>
    rw [hspawn] at h
    obtain ⟨conduct, hends, hwatches⟩ := exists_watches_of_works h rfl
    exact ⟨conduct, hends, .started hspawn hwatches⟩

/-! ### Behaviour -/

/-- What a program does in a call, as far as it matters to the compilation. -/
inductive Behaviour
  /-- It does not succeed. -/
  | fails (conduct : Conduct)
  /-- It succeeds, and then something is found where the bundle is expected, and something may
  prevent the area from being removed. -/
  | bundles (status : ExitStatus) (output error : ByteArray) (found : Except Fault String)
      (stuck : Option Fault)

/-- What prevents an area from being removed. -/
def removalFault (area : StagingArea) (w : World) : Option Fault :=
  match w.disk.removeTree w.cwd area.path with
  | .ok _ => none
  | .error fault => some fault

/-- The conduct of the program in a call that has made its area and put the entry on a disk. -/
def ConductsCall (program projectRoot : Path) (settings : Settings) (tag : String)
    (options : CompileOptions) (area : StagingArea) (w : World) (disk : Disk) (w' : World)
    (conduct : Conduct) : Prop :=
  Conducts program projectRoot (requestOf settings tag area)
    (invocation w disk (requestOf settings tag area) options.token).2
    (deadlineFrom w settings options)
    (invocation w disk (requestOf settings tag area) options.token).1 w' conduct

/-- The behaviour of the program in a call that has made its area and put the entry on a disk. -/
inductive Behaves (program projectRoot : Path) (settings : Settings) (tag : String)
    (options : CompileOptions) (area : StagingArea) (w : World) (disk : Disk) : Behaviour → Prop
  | fails {w₂ : World} {conduct : Conduct}
      (conducts : ConductsCall program projectRoot settings tag options area w disk w₂ conduct)
      (failure : conduct.isSuccess = false) :
      Behaves program projectRoot settings tag options area w disk (.fails conduct)
  | bundles {w₂ w₃ : World} {status : ExitStatus} {output error : ByteArray}
      {found : Except Fault String}
      (conducts : ConductsCall program projectRoot settings tag options area w disk w₂
        (.supervised (.completed status output error)))
      (success : status.isSuccess = true)
      (reads : ReadsBundle area.bundlePath
        (reported (.webpack program projectRoot) w₂ (reportOf (streamText output))) w₃ found) :
      Behaves program projectRoot settings tag options area w disk
        (.bundles status output error found (removalFault area w₃))

/-- What a compilation makes of a behaviour of the program. -/
inductive Behaviour.Yields (program : Path) (limit? : Option Duration) (tag : String)
    (area : StagingArea) : Behaviour → Except Failure Bundle → Prop
  | refused (fault : Fault) :
      Yields program limit? tag area (.fails (.refused fault)) (.error (spawnFailure program fault))
  | failed {verdict : Verdict} {failure : Failure} (h : verdict.result = .error failure) :
      Yields program limit? tag area (.fails (.supervised verdict)) (.error failure)
  | overrun {limit : Duration} (inForce : limit? = some limit) :
      Yields program limit? tag area (.fails .overrun) (.error (.timeout limit))
  | unread {status : ExitStatus} {output error : ByteArray} {stuck : Option Fault} (fault : Fault) :
      Yields program limit? tag area (.bundles status output error (.error fault) stuck)
        (.error (.outputRead area.bundlePath fault))
  | stuck {status : ExitStatus} {output error : ByteArray} {code : String} (fault : Fault) :
      Yields program limit? tag area (.bundles status output error (.ok code) (some fault))
        (.error (.cleanup area.path (.at area.path fault)))
  | bundled {status : ExitStatus} {output error : ByteArray} {code : String} (elapsed : Nat) :
      Yields program limit? tag area (.bundles status output error (.ok code) none)
        (.ok ⟨code, EntryExtension.ofTag tag, (reportOf (streamText output)).diagnostics, elapsed⟩)

/-- A conduct after which the toolchain fails in time is no success, and tells the failure. -/
lemma Conduct.EndsAs.of_failure {limit? : Option Duration} {conduct : Conduct} {failure : Failure}
    (h : conduct.EndsAs program limit? (.inTime (.error failure))) (tag : String)
    (area : StagingArea) :
    conduct.isSuccess = false ∧
      (Behaviour.fails conduct).Yields program limit? tag area (.error failure) := by
  generalize hending : Ending.inTime (.error failure) = ending at h
  cases h with
  | refused fault =>
    cases hending
    exact ⟨rfl, .refused fault⟩
  | supervised verdict =>
    rw [Ending.inTime.injEq] at hending
    refine ⟨?_, .failed hending.symm⟩
    cases verdict with
    | cancelled => rfl
    | completed status output error =>
      rw [Verdict.result] at hending
      split at hending
      · cases hending
      · next hstatus => simpa [Conduct.isSuccess] using hstatus
  | overrun _ => cases hending

/-- A conduct after which the toolchain reports is a success, and the report is in the output. -/
lemma Conduct.EndsAs.of_report {limit? : Option Duration} {conduct : Conduct} {report : Report}
    (h : conduct.EndsAs program limit? (.inTime (.ok report))) :
    ∃ status output error, conduct = .supervised (.completed status output error) ∧
      status.isSuccess = true ∧ report = reportOf (streamText output) := by
  generalize hending : Ending.inTime (.ok report) = ending at h
  cases h with
  | refused fault => cases hending
  | supervised verdict =>
    rw [Ending.inTime.injEq] at hending
    cases verdict with
    | cancelled => cases hending
    | completed status output error =>
      rw [Verdict.result] at hending
      split at hending
      · next hsuccess =>
        exact ⟨status, output, error, rfl, hsuccess, Except.ok.inj hending⟩
      · cases hending
  | overrun _ => cases hending

/-! ### Behaviours and outcomes -/

section

variable {settings : Settings} {source tag : String} {options : CompileOptions}
  {area : StagingArea} {disk : Disk} {w₁ w₂ : World}

lemma limit_deadlineFrom (w : World) (settings : Settings) (options : CompileOptions) :
    (deadlineFrom w settings options).map (·.limit) = limitOf settings options := by
  unfold deadlineFrom
  cases limitOf settings options <;> rfl

/-- What the program is invoked for has some conduct, and ends as it tells. -/
lemma exists_conductsCall_of_invokes {ending : Ending}
    (invoked : Invokes (.webpack program projectRoot) settings source tag options area w₁ w₂
      ending) :
    ∃ disk conduct, area.writeEntry w₁.disk w₁.cwd (EntryExtension.ofTag tag) source =
        .ok (area.entryPath (EntryExtension.ofTag tag), disk) ∧
      conduct.EndsAs program (limitOf settings options) ending ∧
      ConductsCall program projectRoot settings tag options area w₁ disk w₂ conduct := by
  obtain ⟨written, worked⟩ := invoked
  obtain ⟨conduct, hends, hconducts⟩ := exists_conducts_of_works worked
  rw [limit_deadlineFrom] at hends
  exact ⟨_, conduct, written, hends, hconducts⟩

/-- A program that has some conduct in a call is invoked, and ends as it tells. -/
lemma ConductsCall.exists_invokes {conduct : Conduct}
    (h : ConductsCall program projectRoot settings tag options area w₁ disk w₂ conduct)
    (written : area.writeEntry w₁.disk w₁.cwd (EntryExtension.ofTag tag) source =
      .ok (area.entryPath (EntryExtension.ofTag tag), disk)) :
    ∃ ending, conduct.EndsAs program (limitOf settings options) ending ∧
      Invokes (.webpack program projectRoot) settings source tag options area w₁ w₂ ending := by
  obtain ⟨ending, hends, hworks⟩ := h.works
  rw [limit_deadlineFrom] at hends
  exact ⟨ending, hends, .intro written hworks⟩

/-- Whether an area is removed, and what prevents it. -/
lemma close_eq (area : StagingArea) (w : World) :
    (removalFault area w = none ∧ ∃ disk, area.close w.disk w.cwd = .ok disk) ∨
      ∃ fault, removalFault area w = some fault ∧
        area.close w.disk w.cwd = .error (.cleanup area.path (.at area.path fault)) := by
  unfold removalFault StagingArea.close
  cases w.disk.removeTree w.cwd area.path with
  | ok disk => exact .inl ⟨rfl, disk, rfl⟩
  | error fault => exact .inr ⟨fault, rfl, rfl⟩

/-- A program that is invoked and reports has succeeded, and its bundle is looked for. -/
lemma exists_behaves_of_report {w₃ : World} {report : Report} {found : Except Fault String}
    (invoked : Invokes (.webpack program projectRoot) settings source tag options area w₁ w₂
      (.inTime (.ok report)))
    (reads : ReadsBundle area.bundlePath (reported (.webpack program projectRoot) w₂ report) w₃
      found) :
    ∃ disk status output error, area.writeEntry w₁.disk w₁.cwd (EntryExtension.ofTag tag) source =
        .ok (area.entryPath (EntryExtension.ofTag tag), disk) ∧
      report = reportOf (streamText output) ∧
      Behaves program projectRoot settings tag options area w₁ disk
        (.bundles status output error found (removalFault area w₃)) := by
  obtain ⟨disk, conduct, written, hends, hconducts⟩ := exists_conductsCall_of_invokes invoked
  obtain ⟨status, output, error, rfl, hsuccess, rfl⟩ := hends.of_report
  exact ⟨disk, status, output, error, written, rfl, .bundles hconducts hsuccess reads⟩

/-- In every outcome in which the toolchain is invoked, the program has some behaviour, and the
result is what the compilation makes of it. -/
lemma exists_behaves_of_outcome {stage : Stage} {result : Except Failure Bundle}
    (h : Compilation.Outcome (.webpack program projectRoot) settings source tag options w stage w'
      result) (hinvoked : stage.isInvoked = true) :
    ∃ area w₁ disk behaviour, Creates settings tag options w area w₁ ∧
      area.writeEntry w₁.disk w₁.cwd (EntryExtension.ofTag tag) source =
        .ok (area.entryPath (EntryExtension.ofTag tag), disk) ∧
      Behaves program projectRoot settings tag options area w₁ disk behaviour ∧
      behaviour.Yields program (limitOf settings options) tag area result := by
  cases h with
  | token _ => cases hinvoked
  | creation _ _ => cases hinvoked
  | entry _ _ => cases hinvoked
  | limit inForce created invoked =>
    obtain ⟨disk, conduct, written, hends, hconducts⟩ := exists_conductsCall_of_invokes invoked
    cases hends
    exact ⟨_, _, disk, _, created, written, .fails hconducts rfl, .overrun inForce⟩
  | toolchain created invoked =>
    obtain ⟨disk, conduct, written, hends, hconducts⟩ := exists_conductsCall_of_invokes invoked
    obtain ⟨hfails, hyields⟩ := hends.of_failure tag _
    exact ⟨_, _, disk, _, created, written, .fails hconducts hfails, hyields⟩
  | bundle created invoked unread =>
    obtain ⟨disk, status, output, error, written, -, hbehaves⟩ :=
      exists_behaves_of_report invoked unread
    exact ⟨_, _, disk, _, created, written, hbehaves, .unread _⟩
  | @removal area _ _ _ _ _ _ created invoked read stuck =>
    obtain ⟨disk, status, output, error, written, -, hbehaves⟩ :=
      exists_behaves_of_report invoked read
    refine ⟨_, _, disk, _, created, written, hbehaves, ?_⟩
    obtain ⟨-, _, hclose⟩ | ⟨fault', hfault, hclose⟩ := close_eq area w'
    · rw [stuck] at hclose
      cases hclose
    · rw [stuck, Except.error.injEq, Failure.cleanup.injEq] at hclose
      rw [hfault, hclose.2]
      exact .stuck fault'
  | @success area _ _ w₃ _ _ _ created invoked read removed =>
    obtain ⟨disk, status, output, error, written, rfl, hbehaves⟩ :=
      exists_behaves_of_report invoked read
    refine ⟨_, _, disk, _, created, written, hbehaves, ?_⟩
    obtain ⟨hnone, -⟩ | ⟨_, -, hclose⟩ := close_eq area w₃
    · rw [hnone]
      exact .bundled _
    · rw [removed] at hclose
      cases hclose

/-- A behaviour of the program decides the outcome. -/
lemma exists_outcome_of_behaves {behaviour : Behaviour}
    (created : Creates settings tag options w area w₁)
    (written : area.writeEntry w₁.disk w₁.cwd (EntryExtension.ofTag tag) source =
      .ok (area.entryPath (EntryExtension.ofTag tag), disk))
    (h : Behaves program projectRoot settings tag options area w₁ disk behaviour) :
    ∃ stage w' result, Compilation.Outcome (.webpack program projectRoot) settings source tag options
        w stage w' result ∧
      behaviour.Yields program (limitOf settings options) tag area result := by
  cases h with
  | @fails w₂ conduct conducts failure =>
    obtain ⟨ending, hends, invoked⟩ := conducts.exists_invokes written
    cases ending with
    | late limit late =>
      cases hends with
      | overrun inForce => exact ⟨_, _, _, .limit inForce created invoked, .overrun inForce⟩
    | inTime answer =>
      cases answer with
      | error failure =>
        exact ⟨_, _, _, .toolchain created invoked, (hends.of_failure tag area).2⟩
      | ok report =>
        obtain ⟨status, _, _, rfl, hsuccess, -⟩ := hends.of_report
        rw [Conduct.isSuccess, hsuccess] at failure
        cases failure
  | bundles conducts success reads =>
    rename_i w₂ w₃ status output error found
    obtain ⟨ending, hends, invoked⟩ := conducts.exists_invokes written
    have hreport : ending = .inTime (.ok (reportOf (streamText output))) := by
      cases hends
      rw [Verdict.result, if_pos success]
    rw [hreport] at invoked
    cases found with
    | error fault => exact ⟨_, _, _, .bundle created invoked reads, .unread fault⟩
    | ok code =>
      obtain ⟨hnone, disk', hclose⟩ | ⟨fault, hfault, hclose⟩ := close_eq area w₃
      · rw [hnone]
        exact ⟨_, _, _, .success created invoked reads hclose, .bundled _⟩
      · rw [hfault]
        exact ⟨_, _, _, .removal created invoked reads hclose, .stuck fault⟩

/-! ### Programs that cannot be started -/

/-- A program that cannot be started has no other behaviour. -/
lemma behaves_iff_of_refused {fault : Fault} {behaviour : Behaviour}
    (h : (invocation w₁ disk (requestOf settings tag area) options.token).1.toMachine.spawn
      (invocation w₁ disk (requestOf settings tag area) options.token).1.cwd
      (startFor program projectRoot (requestOf settings tag area)
        (invocation w₁ disk (requestOf settings tag area) options.token).1) = .error fault) :
    Behaves program projectRoot settings tag options area w₁ disk behaviour ↔
      behaviour = .fails (.refused fault) := by
  constructor
  · intro hbehaves
    cases hbehaves with
    | fails conducts _ =>
      cases conducts with
      | refused h' => rw [Except.error.inj (h.symm.trans h')]
      | started h' _ => cases h.symm.trans h'
    | bundles conducts _ _ =>
      cases conducts with
      | started h' _ => cases h.symm.trans h'
  · rintro rfl
    exact .fails (.refused h) rfl

lemma hasNul_ofList {cs : List Char} (h : cs.all (· != Char.ofNat 0) = true) :
    Machine.Start.hasNul (String.ofList cs) = false := by
  rw [Machine.Start.hasNul, String.toList_ofList, Bool.eq_false_iff]
  intro hzero
  have hne := List.all_eq_true.mp h _ (List.contains_iff_mem.mp hzero)
  exact absurd rfl (bne_iff_ne.mp hne)

/-- The driver script has no zero in it. -/
lemma hasNul_driverScript : Machine.Start.hasNul driverScript = false := by
  have hlines : ∀ line ∈ driverLines, Machine.Start.hasNul line = false := by
    unfold driverLines
    repeat' refine List.forall_mem_cons.mpr ⟨hasNul_ofList (by decide), ?_⟩
    exact List.forall_mem_nil _
  have hjoin : driverScript.toList = driverLines.flatMap fun line => line.toList ++ ['\n'] := by
    rw [driverScript, String.toList_join, List.flatMap_map]
    exact List.flatMap_congr fun line _ => by simp [String.toList_append]
  rw [Machine.Start.hasNul, hjoin, List.contains_eq_any_beq, List.any_flatMap, List.any_eq_false]
  intro line hline
  have h := hlines line hline
  rw [Machine.Start.hasNul, List.contains_eq_any_beq] at h
  rw [List.any_append, h]
  decide

/-- A request that is handed over as JSON has no zero in it, whatever its paths are. -/
lemma hasNul_compact_request (request : Request) :
    Machine.Start.hasNul request.toJson.compact = false := by
  have hvisible := Json.areVisible_compactChars (Request.isFaithful.isPrintable request)
  rw [Machine.Start.hasNul, Json.compact, String.toList_ofList, Bool.eq_false_iff]
  intro hzero
  have hlow := hvisible _ (List.contains_iff_mem.mp hzero)
  exact absurd hlow (by decide)

/-- What is started for a request is clean as soon as the paths and the environment are. -/
lemma isClean_startFor (request : Request) (w : World)
    (hroot : Machine.Start.hasNul projectRoot.text = false)
    (hprogram : Machine.Start.hasNul program.text = false)
    (henvironment : ∀ v ∈ w.environment, Machine.Start.hasNul v.1 = false ∧
      Machine.Start.hasNul v.2 = false) :
    (startFor program projectRoot request w).isClean = true := by
  have hscript : ["-e", driverScript].any Machine.Start.hasNul = false := by
    simp only [List.any_cons, List.any_nil, hasNul_driverScript, Bool.or_false]
    decide
  have hvariables : (environmentFor w request).any (fun v => Machine.Start.hasNul v.1 ||
      Machine.Start.hasNul v.2) = false := by
    rw [List.any_eq_false]
    intro v hv
    rcases List.mem_cons.mp hv with rfl | hv
    · simp only [hasNul_compact_request, Bool.or_false]
      decide
    · obtain ⟨hname, hvalue⟩ := henvironment v (List.mem_filter.mp hv).1
      simp [hname, hvalue]
  simp only [Machine.Start.isClean, startFor, hroot, hprogram, hscript, hvariables, Bool.or_false,
    Bool.not_false]

-- The equations of `programAt` are out of reach: making them unfolds the walk along the path.
attribute [local irreducible] Disk.locateEntry in
/-- Where a path leads nowhere there is no program. -/
lemma programAt_of_error {m : Machine} {cwd : Place} {path : String} {fault : Fault}
    (missing : m.disk.locateEntry cwd true ⟨Text.decoded path⟩ = .error fault) (depth : Nat)
    (words : List String) : m.programAt cwd depth path words = .error fault := by
  delta Machine.programAt Nat.brecOn.go
  cases depth <;> simp only [Nat.rec_zero, Machine.programAt._f, missing]

/-- A program that is named by a path and is not there cannot be started. -/
lemma spawn_of_missing {m : Machine} {cwd place : Place} {start : Machine.Start}
    (clean : start.isClean = true)
    (directory : m.disk.locateNode cwd true start.directory = .ok (place, .directory))
    (slash : (Text.encoded start.program.text).toList.contains '/' = true)
    (missing : m.disk.locateEntry place true ⟨Text.decoded (Text.encoded start.program.text)⟩ =
      .error (.system .noEntry)) :
    m.spawn cwd start = .error (.system .noEntry) := by
  have hne : Text.encoded start.program.text ≠ "" := by
    intro h
    rw [h] at slash
    cases slash
  have hprogram : m.programNamed place start = .error (.system .noEntry) := by
    unfold Machine.programNamed
    dsimp only
    rw [if_neg hne, if_pos slash, programAt_of_error missing]
    rfl
  simp only [Machine.spawn, clean, directory, hprogram, Bool.not_true, Bool.false_eq_true, if_false]

end

end SnippetForge.Webpack
