import SnippetForge.Proofs.Text.Bytes
import SnippetForge.Proofs.Webpack.Reports
import SnippetForge.Webpack.Toolchain

/-!
# What a supervisor makes of the output of a process

A toolchain that has started a process sees events until the process has ended and both of its
streams are closed. `Sees` follows it from one event to the next, whatever happens to the world in
between, and `Recorded` says what the supervisor knows by then: all that the streams have
delivered, which of them are closed, and how the process ended.

So what is reported in the end depends on the output as a whole. It is text only if all of it is:
a report line at its end is read, whatever text stands before it, but it is lost with everything
else if the bytes before it are no text.
-/

namespace SnippetForge

/-! ### Lines of bytes -/

namespace Text

/-- Whether bytes are empty or end with a line feed. -/
def EndsLineBytes (bytes : ByteArray) : Prop :=
  bytes = ByteArray.empty ∨ ∃ front, bytes = front ++ "\n".toUTF8

/-- A text whose bytes end a line ends a line. -/
lemma endsLine_of_bytes {text : String} (h : EndsLineBytes text.toUTF8) :
    EndsLine text.toList := by
  rcases h with hempty | ⟨front, hfront⟩
  · have htext : some text = some "" := by
      rw [← fromUTF8?_toUTF8 text, hempty]
      exact fromUTF8?_eq_some_iff.mpr rfl
    exact .inl (by rw [Option.some.inj htext]; rfl)
  · have htext := fromUTF8?_toUTF8 text
    rw [hfront, fromUTF8?_append] at htext
    obtain ⟨before, -, rfl⟩ := Option.map_eq_some_iff.mp htext
    exact .inr ⟨before.toList, by simp⟩

end Text

namespace Webpack

/-! ### Events -/

/-- What has come from a stream. -/
def Supervision.capture (s : Supervision) : Stream → Capture
  | .output => s.output
  | .error => s.error

/-- A supervision in which something has changed what has come from a stream. -/
def Supervision.change (s : Supervision) (stream : Stream) (f : Capture → Capture) : Supervision :=
  match stream with
  | .output => { s with output := f s.output }
  | .error => { s with error := f s.error }

@[simp]
lemma Supervision.capture_change_self (s : Supervision) (stream : Stream) (f : Capture → Capture) :
    (s.change stream f).capture stream = f (s.capture stream) := by
  cases stream <;> rfl

lemma Supervision.capture_change_of_ne (s : Supervision) {stream other : Stream}
    (f : Capture → Capture) (h : stream ≠ other) :
    (s.change stream f).capture other = s.capture other := by
  cases stream <;> cases other <;> first | rfl | exact absurd rfl h

@[simp]
lemma Supervision.status_change (s : Supervision) (stream : Stream) (f : Capture → Capture) :
    (s.change stream f).status = s.status := by
  cases stream <;> rfl

@[simp]
lemma Supervision.verdict_change (s : Supervision) (stream : Stream) (f : Capture → Capture) :
    (s.change stream f).verdict = s.verdict := by
  cases stream <;> rfl

@[simp]
lemma Supervision.capture_settle (s : Supervision) : s.settle.capture = s.capture :=
  rfl

@[simp]
lemma Supervision.status_settle (s : Supervision) : s.settle.status = s.status :=
  rfl

/-- Nothing is complete before its streams are closed. -/
lemma Supervision.complete?_of_unclosed {s : Supervision} {stream : Stream}
    (h : (s.capture stream).isClosed = false) : s.complete? = none := by
  unfold Supervision.complete?
  cases stream <;> cases s.status <;> simp_all [Supervision.capture]

/-- What can be seen of a process in some state of its supervision. -/
inductive Supervision.CanSee (s : Supervision) : Event → Prop
  | exited {status : ExitStatus} (alive : s.status = none) : s.CanSee (.exited status)
  | delivered {stream : Stream} {bytes : ByteArray}
      (unclosed : (s.capture stream).isClosed = false) : s.CanSee (.delivered stream bytes)
  | closed {stream : Stream} (unclosed : (s.capture stream).isClosed = false) :
      s.CanSee (.closed stream)
  | cancelled : s.CanSee .cancelled

lemma Supervision.step_exited {s : Supervision} (undecided : s.verdict = none)
    (alive : s.status = none) (status : ExitStatus) :
    s.step (.exited status) = { s with status := some status }.settle := by
  simp only [Supervision.step, undecided, alive]

lemma Supervision.step_delivered {s : Supervision} (undecided : s.verdict = none) (stream : Stream)
    (bytes : ByteArray) :
    s.step (.delivered stream bytes) = s.change stream fun c => deliver c bytes := by
  cases stream <;> simp only [Supervision.step, Supervision.change, undecided]

lemma Supervision.step_closed {s : Supervision} (undecided : s.verdict = none) (stream : Stream) :
    s.step (.closed stream) = (s.change stream close).settle := by
  cases stream <;> simp only [Supervision.step, undecided] <;> rfl

lemma streamEvent?_cases {m m' : Machine} {stream : Stream} {pipe : PipeId} {c : Capture}
    {event : Event} (h : streamEvent? m stream pipe c = some (m', event)) :
    c.isClosed = false ∧ (event = .closed stream ∨ ∃ bytes, event = .delivered stream bytes) := by
  unfold streamEvent? at h
  split_ifs at h with hclosed hbuffered hdrained
  · obtain ⟨-, rfl⟩ := Prod.mk.inj (Option.some.inj h)
    exact ⟨by simpa using hclosed, .inr ⟨_, rfl⟩⟩
  · obtain ⟨-, rfl⟩ := Prod.mk.inj (Option.some.inj h)
    exact ⟨by simpa using hclosed, .inl rfl⟩

/-- A stream is seen only until it is closed, and the end of the process only once. -/
lemma canSee_of_nextEvent? {w w' : World} {token : TokenId} {child : Machine.Child}
    {s : Supervision} {event : Event} (h : nextEvent? w token child s = some (w', event)) :
    s.CanSee event := by
  have hstream : ∀ (stream : Stream) {pipe : PipeId} {m m' : Machine},
      streamEvent? m stream pipe (s.capture stream) = some (m', event) → s.CanSee event := by
    intro stream pipe m m' h
    obtain ⟨hopen, rfl | ⟨bytes, rfl⟩⟩ := streamEvent?_cases h
    · exact .closed hopen
    · exact .delivered hopen
  unfold nextEvent? at h
  dsimp only at h
  split at h
  · next hseen =>
    obtain ⟨-, rfl⟩ := Prod.mk.inj (Option.some.inj h)
    split at hseen
    · next hstatus _ =>
      obtain ⟨-, rfl⟩ := Prod.mk.inj (Option.some.inj hseen)
      exact .exited hstatus
    · split at hseen
      · next hfound =>
        rw [Option.some.inj hseen] at hfound
        exact hstream .output hfound
      · exact hstream .error hseen
  · split_ifs at h
    obtain ⟨-, rfl⟩ := Prod.mk.inj (Option.some.inj h)
    exact .cancelled

/-- Once the process has ended, its output delivers what waits there. -/
lemma nextEvent?_delivered {w : World} {token : TokenId} {child : Machine.Child} {s : Supervision}
    {status : ExitStatus} (ended : s.status = some status) (unclosed : s.output.isClosed = false)
    (waits : (w.toMachine.buffered child.out).isEmpty = false) :
    (nextEvent? w token child s).map Prod.snd
      = some (.delivered .output (w.toMachine.buffered child.out)) := by
  unfold nextEvent? streamEvent?
  simp [ended, unclosed, waits, Machine.drain]

/-- All that a stream has delivered in some events. -/
def deliveredBy (stream : Stream) (events : List Event) : ByteArray :=
  events.foldl
    (fun bytes event =>
      match event with
      | .delivered source more => if source = stream then bytes ++ more else bytes
      | _ => bytes)
    ByteArray.empty

lemma deliveredBy_concat (stream : Stream) (events : List Event) (event : Event) :
    deliveredBy stream (events ++ [event]) =
      match event with
      | .delivered source more =>
        if source = stream then deliveredBy stream events ++ more else deliveredBy stream events
      | _ => deliveredBy stream events := by
  rw [deliveredBy, List.foldl_append]
  rfl

/-! ### The course of a supervision -/

/-- The toolchain has started a process for a request and has seen some events of it since. Between
two of its turns anything may happen to the world. -/
inductive Sees (program projectRoot : Path) (request : Request) (token : TokenId) :
    List Event → RunState → Prop
  | start (child : Machine.Child) :
      Sees program projectRoot request token [] (.supervised child .started)
  | turn {events : List Event} {w : World} {child : Machine.Child} {s : Supervision}
      {event : Event} {state : RunState}
      (before : Sees program projectRoot request token events (.supervised child s))
      (seen : (nextEvent? w token child s).map Prod.snd = some event)
      (running : ((Toolchain.webpack program projectRoot).resume w request token
        (.supervised child s)).2 = .running state) :
      Sees program projectRoot request token (events ++ [event]) state

/-- What a supervisor knows after some events, none of which was the end of its patience. -/
structure Recorded (events : List Event) (s : Supervision) : Prop where
  bytes : ∀ stream, (s.capture stream).bytes = deliveredBy stream events
  closed : ∀ stream, (s.capture stream).isClosed = true ↔ .closed stream ∈ events
  ended : ∀ status, s.status = some status ↔ .exited status ∈ events
  verdict : s.verdict = s.complete?

lemma Recorded.started : Recorded [] .started where
  bytes stream := by cases stream <;> rfl
  closed stream := by
    cases stream <;> simp [Supervision.capture, Supervision.started, Capture.empty]
  ended status := by simp [Supervision.started]
  verdict := rfl

/-- Bytes that an open stream delivers are recorded. -/
lemma Recorded.delivered {events : List Event} {s : Supervision} {stream : Stream}
    {bytes : ByteArray} (h : Recorded events s) (undecided : s.verdict = none)
    (unclosed : (s.capture stream).isClosed = false) :
    Recorded (events ++ [.delivered stream bytes])
      (s.change stream fun c => Supervision.deliver c bytes) := by
  have hkept : ∀ other, ((s.change stream fun c => Supervision.deliver c bytes).capture
      other).isClosed = (s.capture other).isClosed := by
    intro other
    rcases eq_or_ne stream other with rfl | hother
    · simp [Supervision.deliver, unclosed]
    · rw [s.capture_change_of_ne _ hother]
  refine ⟨fun other => ?_, fun other => ?_, fun status => ?_, ?_⟩
  · rw [deliveredBy_concat, ← h.bytes]
    rcases eq_or_ne stream other with rfl | hother
    · simp [Supervision.deliver, unclosed]
    · simp [s.capture_change_of_ne _ hother, hother]
  · simpa [hkept] using h.closed other
  · simpa using h.ended status
  · rw [Supervision.verdict_change, undecided,
      Supervision.complete?_of_unclosed ((hkept stream).trans unclosed)]

/-- The end of a stream is recorded. -/
lemma Recorded.close {events : List Event} {s : Supervision} (h : Recorded events s)
    (stream : Stream) :
    Recorded (events ++ [.closed stream]) (s.change stream Supervision.close).settle := by
  refine ⟨fun other => ?_, fun other => ?_, fun status => ?_, rfl⟩
  · rw [deliveredBy_concat, ← h.bytes, Supervision.capture_settle]
    rcases eq_or_ne stream other with rfl | hother
    · rw [Supervision.capture_change_self, Supervision.close]
    · rw [s.capture_change_of_ne _ hother]
  · have hclosed := h.closed other
    rcases eq_or_ne stream other with rfl | hother
    · simp [Supervision.close]
    · simpa [s.capture_change_of_ne _ hother, hother.symm] using hclosed
  · simpa using h.ended status

/-- The end of a process that was alive is recorded. -/
lemma Recorded.exited {events : List Event} {s : Supervision} (h : Recorded events s)
    (alive : s.status = none) (status : ExitStatus) :
    Recorded (events ++ [.exited status]) { s with status := some status }.settle := by
  have hcapture : { s with status := some status }.settle.capture = s.capture := by
    funext stream
    cases stream <;> rfl
  refine ⟨fun stream => ?_, fun stream => ?_, fun status' => ?_, rfl⟩
  · rw [deliveredBy_concat, hcapture, h.bytes]
  · simpa [hcapture] using h.closed stream
  · have hended := h.ended status'
    rw [alive] at hended
    simp only [reduceCtorEq, false_iff] at hended
    simp [hended, eq_comm]

/-- An event that can be seen is recorded. -/
lemma Recorded.step {events : List Event} {s : Supervision} {event : Event}
    (h : Recorded events s) (undecided : s.verdict = none) (seen : s.CanSee event)
    (patient : event ≠ .cancelled) : Recorded (events ++ [event]) (s.step event) := by
  cases seen with
  | exited alive =>
    rw [Supervision.step_exited undecided alive]
    exact h.exited alive _
  | delivered unclosed =>
    rw [Supervision.step_delivered undecided]
    exact h.delivered undecided unclosed
  | closed _ =>
    rw [Supervision.step_closed undecided]
    exact h.close _
  | cancelled => exact absurd rfl patient

section

variable {program projectRoot : Path} {request : Request} {token : TokenId}

/-- A toolchain that could start its program has seen nothing of it yet. -/
lemma sees_of_start {w : World} {child : Machine.Child} {s : Supervision}
    (h : ((Toolchain.webpack program projectRoot).start w request token).2
      = .supervised child s) :
    Sees program projectRoot request token [] (.supervised child s) := by
  change (Webpack.start program projectRoot w request).2 = _ at h
  unfold Webpack.start at h
  split at h
  · obtain ⟨-, rfl⟩ := RunState.supervised.inj h
    exact .start child
  · cases h

/-- A toolchain that goes on has seen the next event. -/
lemma running_cases {w : World} {child : Machine.Child} {s : Supervision} {state : RunState}
    (h : ((Toolchain.webpack program projectRoot).resume w request token
      (.supervised child s)).2 = .running state) :
    s.verdict = none ∧ ∃ w₁ event, nextEvent? w token child s = some (w₁, event) ∧
      state = .supervised child (s.step event) := by
  change (Webpack.resume w token (.supervised child s)).2 = _ at h
  unfold Webpack.resume at h
  cases hverdict : s.verdict with
  | some verdict => simp [hverdict] at h
  | none =>
    rcases hnext : nextEvent? w token child s with - | ⟨w₁, event⟩
    · simp [hverdict, hnext] at h
    · simp only [hverdict, hnext, Turn.running.injEq] at h
      exact ⟨rfl, w₁, event, rfl, h.symm⟩

/-- A toolchain without a verdict sees the next event. -/
lemma Sees.see {events : List Event} {child : Machine.Child} {s : Supervision}
    (h : Sees program projectRoot request token events (.supervised child s)) (w : World)
    (event : Event) (undecided : s.verdict = none)
    (seen : (nextEvent? w token child s).map Prod.snd = some event) :
    Sees program projectRoot request token (events ++ [event])
      (.supervised child (s.step event)) := by
  refine h.turn seen ?_
  obtain ⟨⟨w₁, _⟩, hnext, rfl⟩ := Option.map_eq_some_iff.mp seen
  change (Webpack.resume w token (.supervised child s)).2 = _
  unfold Webpack.resume
  simp only [undecided, hnext]

/-- What has been seen is recorded, as long as the supervisor has not given up. -/
lemma Sees.recorded {events : List Event} {child : Machine.Child} {s : Supervision}
    (h : Sees program projectRoot request token events (.supervised child s))
    (patient : .cancelled ∉ events) : Recorded events s := by
  generalize hstate : RunState.supervised child s = state at h
  induction h generalizing child s with
  | start _ =>
    obtain ⟨-, rfl⟩ := RunState.supervised.inj hstate
    exact .started
  | turn before seen running ih =>
    subst hstate
    rw [List.mem_append, not_or] at patient
    obtain ⟨undecided, w₁, event, hnext, hstate⟩ := running_cases running
    rw [hnext] at seen
    obtain rfl := Option.some.inj seen
    obtain ⟨rfl, rfl⟩ := RunState.supervised.inj hstate
    -- The event is not that of giving up, since none of the events is.
    refine (ih patient.1 rfl).step undecided (canSee_of_nextEvent? hnext) ?_
    rintro rfl
    exact patient.2 List.mem_cons_self

/-! ### The report -/

/-- A process that has succeeded and whose streams are closed has its report read from what its
output has delivered. -/
lemma Sees.resume_eq {events : List Event} {child : Machine.Child} {s : Supervision}
    {status : ExitStatus}
    (h : Sees program projectRoot request token events (.supervised child s))
    (patient : .cancelled ∉ events) (ended : .exited status ∈ events)
    (succeeded : status.isSuccess = true) (closed : ∀ stream, .closed stream ∈ events) (w : World) :
    ((Toolchain.webpack program projectRoot).resume w request token (.supervised child s)).2
      = .finished (.ok (reportOf (streamText (deliveredBy .output events)))) := by
  have hrecorded := h.recorded patient
  have hstatus := (hrecorded.ended status).mpr ended
  have houtput := (hrecorded.closed .output).mpr (closed .output)
  have herror := (hrecorded.closed .error).mpr (closed .error)
  have hbytes := hrecorded.bytes .output
  have hverdict : s.verdict = some (.completed status s.output.bytes s.error.bytes) := by
    rw [hrecorded.verdict, Supervision.complete?, hstatus]
    simp_all [Supervision.capture]
  change (Webpack.resume w token (.supervised child s)).2 = _
  unfold Webpack.resume
  simp only [hverdict, Verdict.result, succeeded, if_true]
  rw [← hbytes]
  rfl

/-- A report line at the end of bytes is read if what stands before it is text. -/
lemma reportOf_streamText {chatter : ByteArray} {line : String}
    (hchatter : Text.EndsLineBytes chatter) (hline : '\n' ∉ line.toList)
    (hblank : Text.isBlankText line = false) :
    reportOf (streamText (chatter ++ (line ++ "\n").toUTF8))
      = if (String.fromUTF8? chatter).isSome then Report.ofText line else Report.empty := by
  rw [streamText, Text.fromUTF8?_append]
  cases hchat : String.fromUTF8? chatter with
  | none => rfl
  | some text =>
    rw [Text.fromUTF8?_eq_some_iff] at hchat
    subst hchat
    have hrest : ∀ l ∈ Text.lines "", Text.isBlankText l = true := by decide
    have hreport := reportOf_append (Text.endsLine_of_bytes hchatter) hline hblank hrest
    simpa [String.append_assoc] using hreport

/-- The report of a process that has succeeded is that of the last line of its output, as long as
what stands before that line is text, and nothing at all otherwise. The bytes on the other stream
do not matter. -/
theorem report_of_last_line {events : List Event} {child : Machine.Child} {s : Supervision}
    {status : ExitStatus} {chatter : ByteArray} {line : String}
    (h : Sees program projectRoot request token events (.supervised child s))
    (patient : .cancelled ∉ events) (ended : .exited status ∈ events)
    (succeeded : status.isSuccess = true) (closed : ∀ stream, .closed stream ∈ events)
    (written : deliveredBy .output events = chatter ++ (line ++ "\n").toUTF8)
    (hchatter : Text.EndsLineBytes chatter) (hline : '\n' ∉ line.toList)
    (hblank : Text.isBlankText line = false) (w : World) :
    ((Toolchain.webpack program projectRoot).resume w request token (.supervised child s)).2
      = .finished (.ok (if (String.fromUTF8? chatter).isSome then Report.ofText line
        else Report.empty)) := by
  rw [h.resume_eq patient ended succeeded closed, written,
    reportOf_streamText hchatter hline hblank]

end

/-- A world with a process that has succeeded, and the bytes that wait in its output. -/
def endedWorld (output : ByteArray) : World :=
  { World.fresh ⟨[], 1, 0⟩ [] [] fun _ => "aaaaaa" with
    processes := [{ Machine.newProcess 2 [] [] [] with ended := some (.code 0) }]
    pipes := [⟨.unnamed 3, output, false, true, true⟩,
      ⟨.unnamed 4, ByteArray.empty, false, true, true⟩] }

/-- The events that are seen of that process. -/
def endedEvents (output : ByteArray) : List Event :=
  [.exited (.code 0), .delivered .output output, .closed .output, .closed .error]

lemma sees_ended (program projectRoot : Path) (request : Request) {output : ByteArray}
    (h : output.isEmpty = false) :
    ∃ s, Sees program projectRoot request 0 (endedEvents output)
      (.supervised ⟨2, .unnamed 3, .unnamed 4⟩ s) := by
  have hstart : Sees program projectRoot request 0 []
      (.supervised ⟨2, .unnamed 3, .unnamed 4⟩ .started) := .start _
  have hexited := hstart.see (endedWorld output) (.exited (.code 0)) rfl rfl
  have hdelivered := hexited.see (endedWorld output) (.delivered .output output) rfl
    (nextEvent?_delivered rfl rfl h)
  have houtput := hdelivered.see (endedWorld ByteArray.empty) (.closed .output) rfl rfl
  have herror := houtput.see (endedWorld ByteArray.empty) (.closed .error) rfl rfl
  exact ⟨_, herror⟩

lemma deliveredBy_endedEvents (output : ByteArray) :
    deliveredBy .output (endedEvents output) = output :=
  ByteArray.empty_append

lemma closed_mem_endedEvents (output : ByteArray) (stream : Stream) :
    .closed stream ∈ endedEvents output := by
  cases stream <;> simp [endedEvents]

/-- The request for an entry. -/
def entryRequest : Request :=
  .ofEntry ⟨"/area/index.js"⟩ ⟨⟨"/area"⟩⟩ (.forProject ⟨"/"⟩)

/-- A reported error is read after a line of chatter. -/
theorem report_of_last_line_loading :
    ∃ s, Sees ⟨"/node"⟩ ⟨"/"⟩ entryRequest 0
        (endedEvents ("loading\n".toUTF8 ++ (Report.lineOf ["boom"] [] ++ "\n").toUTF8))
        (.supervised ⟨2, .unnamed 3, .unnamed 4⟩ s) ∧
      ((Toolchain.webpack ⟨"/node"⟩ ⟨"/"⟩).resume (endedWorld ByteArray.empty) entryRequest 0
        (.supervised ⟨2, .unnamed 3, .unnamed 4⟩ s)).2 = .finished (.ok ⟨[⟨.error, "boom"⟩]⟩) := by
  have hwaits : ("loading\n".toUTF8
      ++ (Report.lineOf ["boom"] [] ++ "\n").toUTF8).isEmpty = false := by
    decide +kernel
  have hchatter : Text.EndsLineBytes "loading\n".toUTF8 :=
    .inr ⟨"loading".toUTF8, by decide +kernel⟩
  obtain ⟨s, hsees⟩ := sees_ended ⟨"/node"⟩ ⟨"/"⟩ entryRequest hwaits
  have hreport := report_of_last_line hsees (by simp [endedEvents])
    (List.mem_cons_self : Event.exited (.code 0) ∈ endedEvents _) rfl (closed_mem_endedEvents _)
    (deliveredBy_endedEvents _) hchatter (Report.newline_notMem_lineOf ["boom"] [])
    (Report.isBlankText_lineOf ["boom"] []) (endedWorld ByteArray.empty)
  rw [Text.fromUTF8?_toUTF8, Report.ofText_lineOf] at hreport
  exact ⟨s, hsees, hreport⟩

/-- The same error is lost after a line that is no text. -/
theorem report_of_last_line_lost :
    (Report.ofText (Report.lineOf ["boom"] [])).hasErrors = true ∧
    ∃ s, Sees ⟨"/node"⟩ ⟨"/"⟩ entryRequest 0
        (endedEvents ((⟨#[0xFF]⟩ ++ "\n".toUTF8) ++ (Report.lineOf ["boom"] [] ++ "\n").toUTF8))
        (.supervised ⟨2, .unnamed 3, .unnamed 4⟩ s) ∧
      ((Toolchain.webpack ⟨"/node"⟩ ⟨"/"⟩).resume (endedWorld ByteArray.empty) entryRequest 0
        (.supervised ⟨2, .unnamed 3, .unnamed 4⟩ s)).2 = .finished (.ok Report.empty) := by
  have hwaits : ((⟨#[0xFF]⟩ ++ "\n".toUTF8)
      ++ (Report.lineOf ["boom"] [] ++ "\n").toUTF8).isEmpty = false := by
    decide +kernel
  have hinvalid : (String.fromUTF8? (⟨#[0xFF]⟩ ++ "\n".toUTF8)).isSome = false := by
    decide +kernel
  obtain ⟨s, hsees⟩ := sees_ended ⟨"/node"⟩ ⟨"/"⟩ entryRequest hwaits
  have hreport := hsees.resume_eq (by simp [endedEvents])
    (List.mem_cons_self : Event.exited (.code 0) ∈ endedEvents _) rfl (closed_mem_endedEvents _)
    (endedWorld ByteArray.empty)
  rw [deliveredBy_endedEvents, reportOf_streamText (.inr ⟨_, rfl⟩)
    (Report.newline_notMem_lineOf ["boom"] []) (Report.isBlankText_lineOf ["boom"] []), hinvalid]
    at hreport
  refine ⟨?_, s, hsees, hreport⟩
  rw [Report.ofText_lineOf]
  rfl

end Webpack

end SnippetForge
