import SnippetForge.Proofs.Webpack.Streams

/-!
# How a supervision ends

What a supervisor sees next is not up to it: as soon as the process has ended, a stream has
something to deliver or is at its end, or the token is fired, any of these may be seen first, and
`Ready` allows for all of them. `Supervises` follows a supervision through any order of events,
while the rest of the world goes on.

In every order the supervision ends in one of three ways. It gives up, but only if the token is
fired; or the process has ended and both of its streams are closed, and then the result comes from
the error stream alone if the process has failed, and from its output alone if it has succeeded. In
none of them the process is left alive.
-/

namespace SnippetForge

/-! ### Processes that have ended -/

namespace Machine

lemma isAlive_of_exitOf? {m : Machine} {pid : Nat} {status : ExitStatus}
    (h : m.exitOf? pid = some status) : m.isAlive pid = false := by
  unfold exitOf? at h
  unfold isAlive
  cases hprocess : m.process? pid with
  | none => rfl
  | some p =>
    rw [hprocess] at h
    change p.ended = some status at h
    simp [h]

/-- What happens to a pipe does not matter to processes. -/
lemma isAlive_changePipe (m : Machine) (id : PipeId) (f : Pipe → Pipe) (pid : Nat) :
    (m.changePipe id f).isAlive pid = m.isAlive pid := by
  unfold changePipe
  cases m.pipe? id <;> rfl

/-- A process that is put in the place of the one with its number is found there. -/
lemma process?_putProcess_self {m : Machine} (p : Process) {before : Process}
    (h : m.process? p.pid = some before) : (m.putProcess p).process? p.pid = some p := by
  have hpid : before.pid = p.pid := by simpa using List.find?_some h
  have hsame : ((fun q : Process => q.pid == p.pid) ∘ fun q => if q.pid = p.pid then p else q)
      = fun q => q.pid == p.pid := by
    funext q
    by_cases hq : q.pid = p.pid <;> simp [hq]
  unfold process? at h ⊢
  rw [putProcess, List.find?_map, hsame, h, Option.map_some, if_pos hpid]

/-- A process that is ended is not alive, whether it was before or not. -/
lemma isAlive_finish (m : Machine) (pid : Nat) (status : ExitStatus) :
    (m.finish pid status).isAlive pid = false := by
  unfold finish
  cases hprocess : m.process? pid with
  | none => simp only [isAlive, hprocess]
  | some p =>
    obtain rfl : p.pid = pid := by simpa using List.find?_some hprocess
    dsimp only
    split
    · next hended => simpa [isAlive, hprocess] using hended
    · have hput := process?_putProcess_self
        { p with ended := some status, agenda := [], handles := [] } hprocess
      unfold isAlive
      rw [hput]
      rfl

end Machine

namespace Webpack

lemma isAlive_abandon (m : Machine) (child : Machine.Child) :
    (abandon m child).isAlive child.pid = false := by
  unfold abandon Machine.readOutside
  rw [Machine.isAlive_changePipe, Machine.isAlive_changePipe]
  split
  · exact Machine.isAlive_finish m child.pid _
  · next hdead => simpa using hdead

/-- Looking at a stream does not matter to processes. -/
lemma isAlive_of_streamEvent? {m m' : Machine} {stream : Stream} {pipe : PipeId} {c : Capture}
    {event : Event} (h : streamEvent? m stream pipe c = some (m', event)) (pid : Nat) :
    m'.isAlive pid = m.isAlive pid := by
  unfold streamEvent? at h
  split_ifs at h
  · obtain ⟨rfl, -⟩ := Prod.mk.inj (Option.some.inj h)
    exact m.isAlive_changePipe _ _ _
  · obtain ⟨rfl, -⟩ := Prod.mk.inj (Option.some.inj h)
    rfl

/-! ### Events in any order -/

/-- The pipe of a stream. -/
def pipeOf (child : Machine.Child) : Stream → PipeId
  | .output => child.out
  | .error => child.err

/-- What a supervisor may see next, whatever else there is to be seen, with the world after it. -/
inductive Ready (w : World) (token : TokenId) (child : Machine.Child) (s : Supervision) :
    World → Event → Prop
  | exited {status : ExitStatus} (unseen : s.status = none)
      (ended : w.toMachine.exitOf? child.pid = some status) :
      Ready w token child s (w.withMachine w.toMachine) (.exited status)
  | stream (stream : Stream) {m : Machine} {event : Event}
      (found : streamEvent? w.toMachine stream (pipeOf child stream) (s.capture stream)
        = some (m, event)) :
      Ready w token child s (w.withMachine m) event
  | cancelled (fired : w.tokens.isFired token = true) :
      Ready w token child s (w.withMachine (abandon w.toMachine child)) .cancelled

/-- What the toolchain sees next is one of the events that it may see. -/
lemma ready_of_nextEvent? {w w' : World} {token : TokenId} {child : Machine.Child}
    {s : Supervision} {event : Event} (h : nextEvent? w token child s = some (w', event)) :
    Ready w token child s w' event := by
  unfold nextEvent? at h
  dsimp only at h
  split at h
  · next m found hseen =>
    obtain ⟨rfl, rfl⟩ := Prod.mk.inj (Option.some.inj h)
    split at hseen
    · next hstatus hended =>
      obtain ⟨rfl, rfl⟩ := Prod.mk.inj (Option.some.inj hseen)
      exact .exited hstatus hended
    · split at hseen
      · next hfound =>
        rw [Option.some.inj hseen] at hfound
        exact .stream .output hfound
      · exact .stream .error hseen
  · split_ifs at h with hfired
    obtain ⟨rfl, rfl⟩ := Prod.mk.inj (Option.some.inj h)
    exact .cancelled hfired

/-- An event that a supervisor may see is one that it can see. -/
lemma Ready.canSee {w w' : World} {token : TokenId} {child : Machine.Child} {s : Supervision}
    {event : Event} (h : Ready w token child s w' event) : s.CanSee event := by
  cases h with
  | exited unseen _ => exact .exited unseen
  | stream _ found =>
    obtain ⟨unclosed, rfl | ⟨bytes, rfl⟩⟩ := streamEvent?_cases found
    · exact .closed unclosed
    · exact .delivered unclosed
  | cancelled _ => exact .cancelled

/-- What happens to the world between two events. It may be anything, but a process that has ended
does not come back, and a token that is fired stays fired. -/
structure Meanwhile (token : TokenId) (child : Machine.Child) (w w' : World) : Prop where
  ended : w.toMachine.isAlive child.pid = false → w'.toMachine.isAlive child.pid = false
  fired : w.tokens.isFired token = true → w'.tokens.isFired token = true

/-- A supervisor has seen some events of a process, in any order. -/
inductive Supervises (token : TokenId) (child : Machine.Child) :
    List Event → World → Supervision → Prop
  | start (w : World) : Supervises token child [] w .started
  | meanwhile {events : List Event} {w w' : World} {s : Supervision}
      (before : Supervises token child events w s) (others : Meanwhile token child w w') :
      Supervises token child events w' s
  | see {events : List Event} {w w' : World} {s : Supervision} {event : Event}
      (before : Supervises token child events w s) (undecided : s.verdict = none)
      (ready : Ready w token child s w' event) :
      Supervises token child (events ++ [event]) (w'.reportAll (s.eventLines event))
        (s.step event)

/-- A supervision has come to its end after some events. -/
def Ends (token : TokenId) (child : Machine.Child) (events : List Event)
    (result : Except Failure Report) : Prop :=
  ∃ w s w', Supervises token child events w s ∧
    resume w token (.supervised child s) = (w', .finished result)

/-! ### What holds after any events -/

/-- What a supervisor knows after some events in some world. -/
structure Standing (token : TokenId) (child : Machine.Child) (events : List Event) (w : World)
    (s : Supervision) : Prop where
  recorded : .cancelled ∉ events → Recorded events s
  gaveUp : .cancelled ∈ events →
    s.verdict = some .cancelled ∧ s.status.isSome = true ∧ w.tokens.isFired token = true
  ended : s.status.isSome = true → w.toMachine.isAlive child.pid = false

/-- A supervisor that has not decided has not given up. -/
lemma Standing.patient {token : TokenId} {child : Machine.Child} {events : List Event} {w : World}
    {s : Supervision} (h : Standing token child events w s) (undecided : s.verdict = none) :
    .cancelled ∉ events := by
  intro hgaveUp
  have hverdict := (h.gaveUp hgaveUp).1
  rw [undecided] at hverdict
  cases hverdict

/-- Any event that may be seen leaves the supervisor with what it has to know. -/
lemma Standing.see {token : TokenId} {child : Machine.Child} {events : List Event} {w w' : World}
    {s : Supervision} {event : Event} (h : Standing token child events w s)
    (undecided : s.verdict = none) (ready : Ready w token child s w' event)
    (lines : List LogLine) :
    Standing token child (events ++ [event]) (w'.reportAll lines) (s.step event) := by
  have patient := h.patient undecided
  -- As long as the event is not that of giving up, what is seen is recorded.
  have hgoesOn : event ≠ .cancelled →
      ((s.step event).status.isSome = true → w'.toMachine.isAlive child.pid = false) →
      Standing token child (events ++ [event]) (w'.reportAll lines) (s.step event) := by
    intro hevent hended
    have hnone : .cancelled ∉ events ++ [event] := by
      simpa [patient] using hevent.symm
    exact ⟨fun _ => (h.recorded patient).step undecided ready.canSee hevent,
      fun hmem => absurd hmem hnone, hended⟩
  cases ready with
  | exited unseen ended =>
    exact hgoesOn (by simp) fun _ => Machine.isAlive_of_exitOf? ended
  | stream _ found =>
    obtain ⟨-, rfl | ⟨bytes, rfl⟩⟩ := streamEvent?_cases found
    · refine hgoesOn (by simp) fun hstatus => ?_
      rw [Supervision.step_closed undecided, Supervision.status_settle, Supervision.status_change]
        at hstatus
      exact (isAlive_of_streamEvent? found _).trans (h.ended hstatus)
    · refine hgoesOn (by simp) fun hstatus => ?_
      rw [Supervision.step_delivered undecided, Supervision.status_change] at hstatus
      exact (isAlive_of_streamEvent? found _).trans (h.ended hstatus)
  | cancelled fired =>
    have hstep : s.step .cancelled = { s with
        status := some (s.status.getD (.signal .kill)), verdict := some .cancelled } := by
      simp only [Supervision.step, undecided]
    rw [hstep]
    exact ⟨fun hnone => absurd (List.mem_append_right _ List.mem_cons_self) hnone,
      fun _ => ⟨rfl, rfl, fired⟩, fun _ => isAlive_abandon _ _⟩

/-- In any order of events the supervisor knows what it has to. -/
lemma Supervises.standing {token : TokenId} {child : Machine.Child} {events : List Event}
    {w : World} {s : Supervision} (h : Supervises token child events w s) :
    Standing token child events w s := by
  induction h with
  | start _ =>
    exact ⟨fun _ => .started, fun hmem => absurd hmem List.not_mem_nil, fun h => by cases h⟩
  | meanwhile _ others ih =>
    refine ⟨ih.recorded, fun hmem => ?_, fun hstatus => others.ended (ih.ended hstatus)⟩
    obtain ⟨hverdict, hstatus, hfired⟩ := ih.gaveUp hmem
    exact ⟨hverdict, hstatus, others.fired hfired⟩
  | see _ undecided ready ih => exact ih.see undecided ready _

/-! ### The result -/

/-- The results that a supervision may have after some events, in the world at its end. -/
inductive Outcome (token : TokenId) (w : World) (events : List Event) :
    Except Failure Report → Prop
  | cancelled (gaveUp : .cancelled ∈ events) (fired : w.tokens.isFired token = true) :
      Outcome token w events (.error .cancelled)
  | failed {status : ExitStatus} (patient : .cancelled ∉ events)
      (ended : ∀ other, .exited other ∈ events ↔ other = status)
      (closed : ∀ stream, .closed stream ∈ events) (failure : status.isSuccess = false) :
      Outcome token w events (.error (.compilation
        (failureDetail status (streamText (deliveredBy .error events)))))
  | succeeded {status : ExitStatus} (patient : .cancelled ∉ events)
      (ended : ∀ other, .exited other ∈ events ↔ other = status)
      (closed : ∀ stream, .closed stream ∈ events) (success : status.isSuccess = true) :
      Outcome token w events (.ok (reportOf (streamText (deliveredBy .output events))))

/-- Of the world a result needs nothing but a fired token to give up for. -/
lemma Outcome.of_fired {token : TokenId} {w w' : World} {events : List Event}
    {result : Except Failure Report} (h : Outcome token w events result)
    (fired : w.tokens.isFired token = true → w'.tokens.isFired token = true) :
    Outcome token w' events result := by
  cases h with
  | cancelled gaveUp hfired => exact .cancelled gaveUp (fired hfired)
  | failed patient ended closed failure => exact .failed patient ended closed failure
  | succeeded patient ended closed success => exact .succeeded patient ended closed success

/-- The result after a process has failed. -/
lemma Outcome.eq_of_failed {token : TokenId} {w : World} {events : List Event}
    {result : Except Failure Report} {status : ExitStatus} (h : Outcome token w events result)
    (patient : .cancelled ∉ events) (ended : .exited status ∈ events)
    (failure : status.isSuccess = false) :
    result = .error (.compilation
      (failureDetail status (streamText (deliveredBy .error events)))) := by
  cases h with
  | cancelled gaveUp _ => exact absurd gaveUp patient
  | failed _ hended _ _ => rw [(hended status).mp ended]
  | succeeded _ hended _ success =>
    rw [(hended status).mp ended, success] at failure
    cases failure

/-- The result after a process has succeeded. -/
lemma Outcome.eq_of_succeeded {token : TokenId} {w : World} {events : List Event}
    {result : Except Failure Report} {status : ExitStatus} (h : Outcome token w events result)
    (patient : .cancelled ∉ events) (ended : .exited status ∈ events)
    (success : status.isSuccess = true) :
    result = .ok (reportOf (streamText (deliveredBy .output events))) := by
  cases h with
  | cancelled gaveUp _ => exact absurd gaveUp patient
  | failed _ hended _ failure =>
    rw [(hended status).mp ended, failure] at success
    cases success
  | succeeded _ _ _ _ => rfl

/-- Nothing is complete before the process has ended and its streams are closed. -/
lemma Supervision.complete?_eq_some_iff {s : Supervision} {verdict : Verdict} :
    s.complete? = some verdict ↔ ∃ status, s.status = some status ∧
      (∀ stream, (s.capture stream).isClosed = true) ∧
      verdict = .completed status (s.capture .output).bytes (s.capture .error).bytes := by
  have hclosed : (∀ stream, (s.capture stream).isClosed = true) ↔
      (s.output.isClosed && s.error.isClosed) = true := by
    rw [Bool.and_eq_true]
    exact ⟨fun h => ⟨h .output, h .error⟩, fun h stream => by cases stream; exacts [h.1, h.2]⟩
  rw [hclosed]
  unfold Supervision.complete?
  cases s.status with
  | none => simp
  | some status =>
    dsimp only
    split
    · next h => simp [h, Supervision.capture, eq_comm]
    · next h => simp [h]

/-- A supervisor that decides has one of the results, and the process has ended by then. -/
lemma Standing.outcome {token : TokenId} {child : Machine.Child} {events : List Event} {w : World}
    {s : Supervision} (h : Standing token child events w s) {verdict : Verdict}
    (decided : s.verdict = some verdict) :
    w.toMachine.isAlive child.pid = false ∧ Outcome token w events verdict.result := by
  by_cases hmem : .cancelled ∈ events
  · obtain ⟨hverdict, hstatus, hfired⟩ := h.gaveUp hmem
    obtain rfl : verdict = .cancelled := Option.some.inj (decided.symm.trans hverdict)
    exact ⟨h.ended hstatus, .cancelled hmem hfired⟩
  · have hrecorded := h.recorded hmem
    rw [hrecorded.verdict, Supervision.complete?_eq_some_iff] at decided
    obtain ⟨status, hstatus, hclosed, rfl⟩ := decided
    have hended : ∀ other, .exited other ∈ events ↔ other = status := fun other => by
      rw [← hrecorded.ended, hstatus, Option.some.injEq, eq_comm]
    have hstreams : ∀ stream, .closed stream ∈ events := fun stream =>
      (hrecorded.closed stream).mp (hclosed stream)
    refine ⟨h.ended (by rw [hstatus]; rfl), ?_⟩
    rw [hrecorded.bytes, hrecorded.bytes, Verdict.result]
    split
    · next hsuccess => exact .succeeded hmem hended hstreams hsuccess
    · next hfailure => exact .failed hmem hended hstreams (by simpa using hfailure)

/-- What a supervisor does in its next turn: it sees one of the events that it may see, it waits, or
it ends, with the process ended. -/
lemma Supervises.turn {token : TokenId} {child : Machine.Child} {events : List Event} {w : World}
    {s : Supervision} (h : Supervises token child events w s) :
    match resume w token (.supervised child s) with
    | (w', .running state) => ∃ event, state = .supervised child (s.step event) ∧
        Supervises token child (events ++ [event]) w' (s.step event)
    | (w', .waiting) => w' = w
    | (w', .finished result) =>
        w'.toMachine.isAlive child.pid = false ∧ Outcome token w' events result := by
  cases hverdict : s.verdict with
  | some verdict =>
    obtain ⟨hended, houtcome⟩ := h.standing.outcome hverdict
    simp only [resume, hverdict]
    exact ⟨hended, houtcome.of_fired id⟩
  | none =>
    cases hnext : nextEvent? w token child s with
    | none => simp only [resume, hverdict, hnext]
    | some found =>
      simp only [resume, hverdict, hnext]
      exact ⟨found.2, rfl, h.see hverdict (ready_of_nextEvent? hnext)⟩

lemma Ends.outcome {token : TokenId} {child : Machine.Child} {events : List Event}
    {result : Except Failure Report} (h : Ends token child events result) :
    ∃ w, Outcome token w events result := by
  obtain ⟨w, s, w', hsupervises, hresume⟩ := h
  have hturn := hsupervises.turn
  rw [hresume] at hturn
  exact ⟨w', hturn.2⟩

/-- A process that could not be started is a failed compilation, and nothing has happened. -/
lemma start_cases (program projectRoot : Path) (w : World) (request : Request) :
    (∃ w' child, start program projectRoot w request = (w', .supervised child .started)) ∨
      ∃ message, start program projectRoot w request = (w, .refused (.compilation message)) := by
  unfold start
  split
  · next m child _ => exact .inl ⟨w.withMachine m, child, rfl⟩
  · next fault _ => exact .inr ⟨_, rfl⟩

/-- What is said about a process that has failed depends on its status and the trimmed text of its
error stream only. -/
lemma failureDetail_eq_of_trim {status : ExitStatus} {error error' : String}
    (h : Text.trim error = Text.trim error') :
    failureDetail status error = failureDetail status error' := by
  unfold failureDetail
  rw [h]

/-- A toolchain that cannot start its program fails as a compilation, in every world. One that has
started it ends only when the process has ended, in whatever order the events come: as cancelled if
the token is fired, or else when both streams are closed. What it makes of a failure then depends
on the status and the trimmed error stream, and the report on nothing but the output. -/
theorem outcome_in_every_order :
    (∀ (program projectRoot : Path) (w : World) (request : Request) (token : TokenId),
      (∃ w' child, (Toolchain.webpack program projectRoot).start w request token
            = (w', .supervised child .started) ∧ Supervises token child [] w' .started) ∨
        ∃ message, (Toolchain.webpack program projectRoot).start w request token
            = (w, .refused (.compilation message)) ∧
          ∀ later, (Toolchain.webpack program projectRoot).resume later request token
              (.refused (.compilation message))
            = (later, .finished (.error (.compilation message)))) ∧
    (∀ (program projectRoot : Path) (request : Request) {token : TokenId} {child : Machine.Child}
      {events : List Event} {w : World} {s : Supervision}, Supervises token child events w s →
      match (Toolchain.webpack program projectRoot).resume w request token
        (.supervised child s) with
      | (w', .running state) => ∃ event, state = .supervised child (s.step event) ∧
          Supervises token child (events ++ [event]) w' (s.step event)
      | (w', .waiting) => w' = w
      | (w', .finished result) =>
          w'.toMachine.isAlive child.pid = false ∧ Outcome token w' events result) ∧
    ∀ {token token' : TokenId} {child child' : Machine.Child} {events events' : List Event}
      {result result' : Except Failure Report},
      Ends token child events result → Ends token' child' events' result' →
      .cancelled ∉ events → .cancelled ∉ events' →
      (∀ status, .exited status ∈ events → .exited status ∈ events' →
        status.isSuccess = false →
        Text.trim (streamText (deliveredBy .error events))
          = Text.trim (streamText (deliveredBy .error events')) →
        ∃ message, result = .error (.compilation message) ∧
          result' = .error (.compilation message)) ∧
      ∀ status status', .exited status ∈ events → .exited status' ∈ events' →
        status.isSuccess = true → status'.isSuccess = true →
        deliveredBy .output events = deliveredBy .output events' →
        ∃ report, result = .ok report ∧ result' = .ok report := by
  refine ⟨fun program projectRoot w request token => ?_, fun _ _ _ _ _ _ _ _ h => h.turn, ?_⟩
  · obtain ⟨w', child, hstart⟩ | ⟨message, hstart⟩ := start_cases program projectRoot w request
    · exact .inl ⟨w', child, hstart, .start w'⟩
    · exact .inr ⟨message, hstart, fun _ => rfl⟩
  · intro _ _ _ _ events events' result result' h h' patient patient'
    obtain ⟨w, houtcome⟩ := h.outcome
    obtain ⟨w', houtcome'⟩ := h'.outcome
    constructor
    · intro status ended ended' failure same
      have hresult := houtcome.eq_of_failed patient ended failure
      have hresult' := houtcome'.eq_of_failed patient' ended' failure
      rw [failureDetail_eq_of_trim same] at hresult
      exact ⟨_, hresult, hresult'⟩
    · intro status status' ended ended' success success' same
      have hresult := houtcome.eq_of_succeeded patient ended success
      have hresult' := houtcome'.eq_of_succeeded patient' ended' success'
      rw [same] at hresult
      exact ⟨_, hresult, hresult'⟩

/-- A process with its streams. -/
def crowdedChild : Machine.Child :=
  ⟨4, .unnamed 2, .unnamed 3⟩

/-- A world in which everything has come at once: the token is fired, and that process has ended
with bytes in both of its streams. -/
def crowdedWorld (status : ExitStatus) (output error : ByteArray) : World :=
  { World.fresh ⟨[], 1, 0⟩ [] [] fun _ => "aaaaaa" with
    tokens := ⟨[⟨none, true⟩]⟩,
    processes := [{ Machine.newProcess 4 [] [] [] with ended := some status }],
    pipes := [⟨.unnamed 2, output, false, true, true⟩, ⟨.unnamed 3, error, false, true, true⟩] }

/-- An order in which that process can be seen. -/
def crowdedEvents (status : ExitStatus) (output error : ByteArray) : List Event :=
  [.delivered .error error, .closed .error, .delivered .output output, .exited status,
    .closed .output]

/-- In such a world anything may be seen next that is there to be seen. -/
lemma Supervises.see_crowded {events : List Event} {w w' : World} {s : Supervision} {event : Event}
    (h : Supervises 0 crowdedChild events w s) (status : ExitStatus) (output error : ByteArray)
    (undecided : s.verdict = none)
    (ready : Ready (crowdedWorld status output error) 0 crowdedChild s w' event) :
    ∃ w', Supervises 0 crowdedChild (events ++ [event]) w' (s.step event) :=
  ⟨_, (h.meanwhile ⟨fun _ => rfl, fun _ => rfl⟩).see undecided ready⟩

section

variable {w : World} {token : TokenId} {child : Machine.Child} {s : Supervision} (stream : Stream)

/-- Bytes that wait may be seen next. -/
lemma ready_delivered (unclosed : (s.capture stream).isClosed = false)
    (waits : (w.toMachine.buffered (pipeOf child stream)).isEmpty = false) :
    Ready w token child s (w.withMachine (w.toMachine.drain (pipeOf child stream)).1)
      (.delivered stream (w.toMachine.buffered (pipeOf child stream))) := by
  refine .stream stream ?_
  unfold streamEvent?
  rw [unclosed, waits]
  rfl

/-- The end of a stream may be seen next. -/
lemma ready_closed (unclosed : (s.capture stream).isClosed = false)
    (empty : (w.toMachine.buffered (pipeOf child stream)).isEmpty = true)
    (drained : w.toMachine.isDrained (pipeOf child stream) = true) :
    Ready w token child s (w.withMachine w.toMachine) (.closed stream) := by
  refine .stream stream ?_
  unfold streamEvent?
  rw [unclosed, empty, drained]
  rfl

end

/-- The supervision of that process may come to its end, although the token is fired. -/
lemma ends_crowded (status : ExitStatus) (output error : ByteArray)
    (houtput : output.isEmpty = false) (herror : error.isEmpty = false) :
    ∃ result, Ends 0 crowdedChild (crowdedEvents status output error) result := by
  have hstart : Supervises 0 crowdedChild [] (crowdedWorld status output error) .started :=
    .start _
  obtain ⟨_, h₁⟩ := hstart.see_crowded status output error rfl (ready_delivered .error rfl herror)
  obtain ⟨_, h₂⟩ := h₁.see_crowded status output ByteArray.empty rfl
    (ready_closed .error rfl rfl rfl)
  obtain ⟨_, h₃⟩ := h₂.see_crowded status output ByteArray.empty rfl
    (ready_delivered .output rfl houtput)
  obtain ⟨_, h₄⟩ := h₃.see_crowded status ByteArray.empty ByteArray.empty rfl (.exited rfl rfl)
  obtain ⟨w, h₅⟩ := h₄.see_crowded status ByteArray.empty ByteArray.empty rfl
    (ready_closed .output rfl rfl rfl)
  exact ⟨_, w, _, _, h₅, rfl⟩

/-- The supervision may give up at once. Or it sees a failure, which is the same for other output
and blanks around the same complaint, or a success, which is the same for other complaints. -/
theorem outcome_in_every_order_crowded :
    (∃ result, Ends 0 crowdedChild [.cancelled] result ∧ result = .error .cancelled) ∧
    (∃ message,
      Ends 0 crowdedChild (crowdedEvents (.code 1) "a".toUTF8 " boom\n".toUTF8)
        (.error (.compilation message)) ∧
      Ends 0 crowdedChild (crowdedEvents (.code 1) "b".toUTF8 "boom".toUTF8)
        (.error (.compilation message))) ∧
    ∃ report,
      Ends 0 crowdedChild (crowdedEvents (.code 0) "a".toUTF8 "boom".toUTF8) (.ok report) ∧
      Ends 0 crowdedChild (crowdedEvents (.code 0) "a".toUTF8 "?".toUTF8) (.ok report) := by
  have hmem : ∀ status output error, .exited status ∈ crowdedEvents status output error := by
    simp [crowdedEvents]
  have hpatient : ∀ status output error, .cancelled ∉ crowdedEvents status output error := by
    simp [crowdedEvents]
  refine ⟨?_, ?_, ?_⟩
  · have hgaveUp : Supervises 0 crowdedChild [.cancelled]
        _ (Supervision.started.step .cancelled) :=
      (Supervises.start (crowdedWorld (.code 0) "a".toUTF8 "b".toUTF8)).see rfl (.cancelled rfl)
    obtain ⟨-, houtcome⟩ := outcome_in_every_order.2.1 ⟨"/node"⟩ ⟨"/"⟩ entryRequest hgaveUp
    refine ⟨_, ⟨_, _, _, hgaveUp, rfl⟩, ?_⟩
    cases houtcome with
    | cancelled _ _ => rfl
  · obtain ⟨result, hfirst⟩ := ends_crowded (.code 1) "a".toUTF8 " boom\n".toUTF8
      (by decide +kernel) (by decide +kernel)
    obtain ⟨result', hsecond⟩ := ends_crowded (.code 1) "b".toUTF8 "boom".toUTF8
      (by decide +kernel) (by decide +kernel)
    obtain ⟨message, rfl, rfl⟩ := (outcome_in_every_order.2.2 hfirst hsecond (hpatient _ _ _)
      (hpatient _ _ _)).1 (.code 1) (hmem _ _ _) (hmem _ _ _) rfl (by decide +kernel)
    exact ⟨message, hfirst, hsecond⟩
  · obtain ⟨result, hfirst⟩ := ends_crowded (.code 0) "a".toUTF8 "boom".toUTF8
      (by decide +kernel) (by decide +kernel)
    obtain ⟨result', hsecond⟩ := ends_crowded (.code 0) "a".toUTF8 "?".toUTF8
      (by decide +kernel) (by decide +kernel)
    obtain ⟨report, rfl, rfl⟩ := (outcome_in_every_order.2.2 hfirst hsecond (hpatient _ _ _)
      (hpatient _ _ _)).2 (.code 0) (.code 0) (hmem _ _ _) (hmem _ _ _) rfl rfl rfl
    exact ⟨report, hfirst, hsecond⟩

end Webpack

end SnippetForge
