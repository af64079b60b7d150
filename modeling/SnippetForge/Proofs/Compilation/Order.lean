import SnippetForge.Proofs.Compilation.Cleanup

/-!
# The order of events in a compilation

A step of a compilation may do something that matters outside of it: it makes the staging area,
invokes the toolchain, tells it to stop, sees it return, reads the bundle, or removes the area.
These are its *deeds*, and a run has a list of them.

What a compilation still does depends on its phase alone, so the lists that are possible are given
phase by phase, from the end backwards: `Rest` says which deeds are left. A step adds its deed in
front of what is left after it, and by induction on the run the list of the whole run is one of
those that `Rest` gives for the start. `InOrder` sums up what they have in common.
-/

namespace SnippetForge.Compilation

variable {σ : Type} {tc : Toolchain σ}

/-! ### Deeds -/

/-- What a compilation does in one step. -/
inductive Deed
  /-- It has made the staging area. -/
  | made (area : StagingArea)
  /-- It has invoked the toolchain and handed it a token. -/
  | invoked (call : Call) (token : TokenId)
  /-- A limit has been reached, and it has fired a token. -/
  | stopped (limit : Duration) (token : TokenId) (before after : Tokens)
  /-- The toolchain has come to its end. -/
  | returned (result : Except Failure Report)
  /-- It has read the bundle, or opened it if that is a named pipe. -/
  | read (path : Path)
  /-- It has read what was left in a named pipe. -/
  | collected (pipe : PipeId)
  /-- It has removed the staging area, or tried to. -/
  | removed (area : StagingArea)

/-- The kinds of deeds in their order. -/
def Deed.rank : Deed → Nat
  | .made _ => 0
  | .invoked _ _ => 1
  | .stopped _ _ _ _ => 2
  | .returned _ => 3
  | .read _ => 4
  | .collected _ => 5
  | .removed _ => 6

/-- The deed of a step that a compilation makes, if it does anything that matters outside. -/
def deed? (tc : Toolchain σ) (w : World) (c : Compilation σ) (after : World) : Option Deed :=
  match c.phase with
  | .naming parent (_ + 1) =>
    match StagingArea.attempt w.disk w.cwd parent (w.names w.drawn) with
    | .made area _ => some (.made area)
    | _ => none
  | .staged area =>
    match area.writeEntry w.disk w.cwd c.extension c.source with
    | .ok (entry, disk) =>
      some (.invoked ⟨Request.ofEntry entry area c.settings, disk⟩
        (w.tokens.add c.options.token).2)
    | .error _ => none
  | .bundling _ request token deadline s =>
    match (tc.resume w request token s).2 with
    | .running _ => none
    | .waiting =>
      (isExpired w deadline).map fun limit => .stopped limit token w.tokens after.tokens
    | .finished result => some (.returned result)
  | .stopping _ request token _ s =>
    match (tc.resume w request token s).2 with
    | .finished result => some (.returned result)
    | _ => none
  | .reading _ request _ => some (.read request.bundlePath)
  | .collecting _ _ _ pipe => some (.collected pipe)
  | .closing area _ => some (.removed area)
  | _ => none

/-- All that a run does, in order. -/
def deeds (tc : Toolchain σ) : (fuel : Nat) → World → Compilation σ → List Deed
  | 0, _, _ => []
  | fuel + 1, w, c =>
    match c.phase with
    | .finished _ => []
    | _ =>
      match step tc w c with
      | some (w', c') => (deed? tc w c w').toList ++ deeds tc fuel w' c'
      | none =>
        match w.advance? c.deadline?.toList with
        | some w' => deeds tc fuel w' c
        | none => []

/-! ### What is left to do -/

/-- The deeds of a compilation that has a report. -/
inductive Reads (area : StagingArea) (request : Request) : List Deed → Prop
  | file : Reads area request [.read request.bundlePath, .removed area]
  | pipe {pipe : PipeId} :
      Reads area request [.read request.bundlePath, .collected pipe, .removed area]

/-- The deeds of a compilation whose toolchain is at work. -/
inductive Serves (area : StagingArea) (request : Request) (token : TokenId) : List Deed → Prop
  | failed {failure : Failure} :
      Serves area request token [.returned (.error failure), .removed area]
  | reported {report : Report} {rest : List Deed} (h : Reads area request rest) :
      Serves area request token (.returned (.ok report) :: rest)
  | late {limit : Duration} {before : Tokens} {result : Except Failure Report} :
      Serves area request token
        [.stopped limit token before (before.fire token), .returned result, .removed area]

/-- The deeds of a compilation that has its area. -/
inductive Stages (source : String) (e : EntryExtension) (area : StagingArea) : List Deed → Prop
  | unwritten : Stages source e area [.removed area]
  | invoked {call : Call} {token : TokenId} {rest : List Deed}
      (entry : call.request.entry = area.entryPath e)
      (written : ∀ cwd, call.disk.readText cwd call.request.entry = .ok source)
      (h : Serves area call.request token rest) :
      Stages source e area (.invoked call token :: rest)

/-- The deeds of a compilation from its start. -/
inductive Starts (source : String) (e : EntryExtension) : List Deed → Prop
  | nothing : Starts source e []
  | made {area : StagingArea} {rest : List Deed} (h : Stages source e area rest) :
      Starts source e (.made area :: rest)

/-- The deeds of a compilation from a phase on. -/
def Rest (source : String) (e : EntryExtension) : Phase σ → List Deed → Prop
  | .ready, rest => Starts source e rest
  | .naming _ _, rest => Starts source e rest
  | .staged area, rest => Stages source e area rest
  | .bundling area request token _ _, rest => Serves area request token rest
  | .stopping area _ _ _ _, rest => ∃ result, rest = [.returned result, .removed area]
  | .reading area request _, rest => Reads area request rest
  | .collecting area _ _ pipe, rest => rest = [.collected pipe, .removed area]
  | .closing area _, rest => rest = [.removed area]
  | .finished _, rest => rest = []

/-- The deed of a move comes before what is left after it. -/
lemma Rest.of_move {w w' : World} {c c' : Compilation σ} {rest : List Deed}
    (h : Move tc w c w' c')
    (written : ∀ area disk, c.phase = .staged area →
      area.writeEntry w.disk w.cwd c.extension c.source = .ok (area.entryPath c.extension, disk) →
      ∀ cwd, disk.readText cwd (area.entryPath c.extension) = .ok c.source)
    (hrest : Rest c.source c.extension c'.phase rest) :
    Rest c.source c.extension c.phase ((deed? tc w c w').toList ++ rest) := by
  unfold deed?
  -- The phase says which deed the move has, and the phase after it what follows that deed.
  cases h with
  | refrain h _ =>
    obtain rfl : rest = [] := hrest
    rw [h]
    exact .nothing
  | rootless h _ _ =>
    obtain rfl : rest = [] := hrest
    rw [h]
    exact .nothing
  | seek h _ _ =>
    rw [h]
    exact hrest
  | exhaust h =>
    obtain rfl : rest = [] := hrest
    rw [h]
    exact .nothing
  | skip h taken =>
    rw [h]
    simp only [taken]
    exact hrest
  | refuse h failed =>
    obtain rfl : rest = [] := hrest
    rw [h]
    simp only [failed]
    exact .nothing
  | make h made =>
    rw [h]
    simp only [made]
    exact .made hrest
  | unwritten h failed =>
    obtain rfl : rest = [.removed _] := hrest
    rw [h]
    simp only [failed]
    exact .unwritten
  | invoke h hwritten =>
    rw [h]
    simp only [hwritten]
    exact .invoked rfl (written _ _ h hwritten) hrest
  | work h resumed =>
    rw [h]
    simp only [resumed]
    exact hrest
  | @conclude _ _ _ _ _ _ result h resumed =>
    rw [h]
    simp only [resumed]
    cases result with
    | error failure =>
      obtain rfl : rest = [.removed _] := hrest
      exact .failed
    | ok report => exact .reported hrest
  | expire h resumed expired =>
    obtain ⟨result, rfl⟩ := hrest
    rw [h]
    simp only [resumed, expired]
    exact .late
  | linger h resumed =>
    rw [h]
    simp only [resumed]
    exact hrest
  | @halt _ _ _ _ _ _ result h resumed =>
    obtain rfl : rest = [.removed _] := hrest
    rw [h]
    simp only [resumed]
    exact ⟨result, rfl⟩
  | read h _ =>
    obtain rfl : rest = [.removed _] := hrest
    rw [h]
    exact .file
  | listen h _ =>
    obtain rfl : rest = [.collected _, .removed _] := hrest
    rw [h]
    exact .pipe
  | collect h _ =>
    obtain rfl : rest = [.removed _] := hrest
    rw [h]
    rfl
  | remove h _ =>
    obtain rfl : rest = [] := hrest
    rw [h]
    rfl
  | leave h _ =>
    obtain rfl : rest = [] := hrest
    rw [h]
    rfl

/-- Whether a step leaves the disk to the toolchain: it neither makes the area nor invokes the
toolchain nor removes the area. -/
def IsQuiet (deed : Option Deed) : Prop :=
  ∀ d ∈ deed, 1 < d.rank ∧ d.rank < 6

/-- A quiet step changes nothing on the disk but what the toolchain changes. -/
lemma Move.disk_of_isQuiet {w w' : World} {c c' : Compilation σ} (h : Move tc w c w' c')
    (quiet : IsQuiet (deed? tc w c w')) :
    w'.disk = w.disk ∨
      ∃ request token s, w'.disk = (tc.resume w request token s).1.disk := by
  have hresumed : ∀ {request token s w₁ turn}, tc.resume w request token s = (w₁, turn) →
      ∀ v : World, v.disk = w₁.disk →
        ∃ request token s, v.disk = (tc.resume w request token s).1.disk := by
    intro request token s w₁ turn hresume v hv
    exact ⟨request, token, s, by rw [hresume, hv]⟩
  cases h with
  | @make _ _ area _ h made =>
    have hdeed := quiet (.made area) (by rw [deed?, h]; simp only [made, Option.mem_some])
    exact absurd hdeed.1 (by simp [Deed.rank])
  | invoke h written =>
    have hdeed := quiet (.invoked _ _) (by rw [deed?, h]; simp only [written, Option.mem_some]; rfl)
    exact absurd hdeed.1 (by simp [Deed.rank])
  | remove h _ =>
    have hdeed := quiet (.removed _) (by rw [deed?, h]; rfl)
    exact absurd hdeed.2 (by simp [Deed.rank])
  | work _ resumed => exact .inr (hresumed resumed _ rfl)
  | linger _ resumed => exact .inr (hresumed resumed _ rfl)
  | halt _ resumed => exact .inr (hresumed resumed _ rfl)
  | @conclude _ _ _ _ _ _ result _ resumed =>
    cases result <;> exact .inr (hresumed resumed _ rfl)
  | listen _ _ => exact .inl (disk_withMachine_readOutside _ _ true)
  | collect _ _ => exact .inl (disk_withMachine_drain _ _)
  | _ => exact .inl rfl

/-! ### Along a run -/

lemma deeds_succ_of_finished {w : World} {c : Compilation σ} {result : Except Failure Bundle}
    (h : c.phase = .finished result) (fuel : Nat) : deeds tc (fuel + 1) w c = [] := by
  rw [deeds, h]

lemma deeds_succ_of_move {w w' : World} {c c' : Compilation σ} (h : Move tc w c w' c')
    (fuel : Nat) :
    deeds tc (fuel + 1) w c = (deed? tc w c w').toList ++ deeds tc fuel w' c' := by
  rw [deeds]
  split
  · next result hfin => exact absurd h.next (not_next_of_finished hfin)
  · simp only [h.step_eq]

lemma deeds_succ_of_wait {w w' : World} {c : Compilation σ} (unfinished : c.result? = none)
    (idle : step tc w c = none) (passed : w.advance? c.deadline?.toList = some w') (fuel : Nat) :
    deeds tc (fuel + 1) w c = deeds tc fuel w' c := by
  rw [deeds]
  split
  · next result hfin =>
    rw [result?_eq_some_iff.mpr hfin] at unfinished
    cases unfinished
  · simp only [idle, passed]

/-- An entry that is written into an area that has just been made holds the source. -/
lemma holds_of_undisturbed {w₀ w : World} {c : Compilation σ} {area : StagingArea} {disk : Disk}
    (tree : w₀.disk.WellFormed) (names : ∀ n, '/' ∉ (w₀.names n).toList)
    (hw : Undisturbed w₀ w c.phase) (h : c.phase = .staged area)
    (written : area.writeEntry w.disk w.cwd c.extension c.source
      = .ok (area.entryPath c.extension, disk)) (cwd : Place) :
    disk.readText cwd (area.entryPath c.extension) = .ok c.source := by
  rw [h] at hw
  obtain ⟨_, parent, n, rfl, hmade, -⟩ := hw
  obtain ⟨place, hfree, hdisk, hleads⟩ := StagingArea.leadsTo_of_made (names n) hmade
  have hfree' : w.disk.entry? (place ++ [c.extension.fileName]) = none := by
    rw [hdisk, Disk.entry?_add hfree, if_neg (by simp)]
    exact tree.entry?_below hfree _
  exact StagingArea.readText_of_writeEntry (EntryExtension.isProper_fileName _)
    (StagingArea.isAbsolute_below parent (names n)) hleads hfree' written cwd

/-- What a run does from a phase on is what is left to do. -/
lemma rest_of_run {w₀ : World} (tree : w₀.disk.WellFormed)
    (names : ∀ n, '/' ∉ (w₀.names n).toList) {fuel : Nat} {w w' : World} {c : Compilation σ}
    {result : Except Failure Bundle} (hw : Undisturbed w₀ w c.phase)
    (h : run tc fuel w c = .ok (w', result)) :
    Rest c.source c.extension c.phase (deeds tc fuel w c) := by
  induction fuel generalizing w c with
  | zero => simp [run] at h
  | succ fuel ih =>
    rcases run_succ_cases h with ⟨hfin, -⟩ | ⟨w₁, c₁, hstep, hrun⟩ |
      ⟨w₁, unfinished, idle, passed, hrun⟩
    · rw [deeds_succ_of_finished hfin, hfin]
      rfl
    · have hmove := move_of_step hstep
      -- What is left after the move is stated for the compilation after it, which serves the same
      -- call.
      have hrest := ih (hmove.undisturbed hw) hrun
      rw [hmove.sameCall.source, extension, hmove.sameCall.tag] at hrest
      rw [deeds_succ_of_move hmove]
      exact hrest.of_move hmove fun area disk hphase hwritten =>
        holds_of_undisturbed tree names hw hphase hwritten
    · rw [deeds_succ_of_wait unfinished idle passed]
      exact ih (undisturbed_of_wait idle) hrun

/-! ### The order -/

/-- What the deeds of a whole compilation of a source have in common. -/
structure InOrder (source : String) (e : EntryExtension) (deeds : List Deed) : Prop where
  /-- Each kind of deed is done at most once, and after all deeds of earlier kinds. -/
  ordered : deeds.Pairwise fun a b => a.rank < b.rank
  /-- The toolchain is invoked in the area, whose entry then holds the source. -/
  invoked : ∀ call token, .invoked call token ∈ deeds →
    (∃ area, .made area ∈ deeds ∧ call.request.entry = area.entryPath e) ∧
      ∀ cwd, call.disk.readText cwd call.request.entry = .ok source
  /-- The toolchain comes to its end exactly if it has been invoked. -/
  returned : (∃ result, .returned result ∈ deeds) ↔ ∃ call token, .invoked call token ∈ deeds
  /-- The token that is fired at the limit is the one that the toolchain has been handed. -/
  stopped : ∀ limit token before after, .stopped limit token before after ∈ deeds →
    after = before.fire token ∧ ∃ call, .invoked call token ∈ deeds
  /-- The bundle is read if the toolchain has reported and no limit has been reached before. -/
  read : ∀ path, .read path ∈ deeds →
    (∃ call token, .invoked call token ∈ deeds ∧ path = call.request.bundlePath) ∧
      (∃ report, .returned (.ok report) ∈ deeds) ∧
      ∀ limit token before after, .stopped limit token before after ∉ deeds
  /-- A named pipe is read only as the bundle. -/
  collected : ∀ pipe, .collected pipe ∈ deeds → ∃ path, .read path ∈ deeds
  /-- The area is removed exactly if it has been made. -/
  removed : ∀ area, .removed area ∈ deeds ↔ .made area ∈ deeds

/-- All that a compilation can do from its start is in order. -/
lemma Starts.inOrder {source : String} {e : EntryExtension} {deeds : List Deed}
    (h : Starts source e deeds) : InOrder source e deeds := by
  -- Six lists are possible. What is asked of each is a question about its members.
  cases h with
  | nothing => constructor <;> simp
  | made h =>
    cases h with
    | unwritten => constructor <;> simp [Deed.rank]
    | invoked entry written h =>
      cases h with
      | failed => constructor <;> simp_all [Deed.rank]
      | late => constructor <;> simp_all [Deed.rank]
      | reported h => cases h <;> constructor <;> simp_all [Deed.rank]

/-- Whatever the toolchain does, whatever the limit is and whenever the caller cancels, a
compilation that comes to an end has done everything in order. The toolchain is invoked at most
once, with the source in its entry. It has returned before anything is read or removed, also if it
had to be told to stop. The bundle is read only after a report in time. And an area that is made is
removed once, as the last deed of all: no other step changes anything on the disk that the
toolchain does not. -/
theorem run_in_order (tc : Toolchain σ) (settings : Settings) (source tag : String)
    (options : CompileOptions) (fuel : Nat) (w w' : World) (result : Except Failure Bundle)
    (tree : w.disk.WellFormed) (names : ∀ n, '/' ∉ (w.names n).toList)
    (h : run tc fuel w (new settings source tag options) = .ok (w', result)) :
    InOrder source (EntryExtension.ofTag tag)
        (deeds tc fuel w (new settings source tag options)) ∧
      ∀ (v v' : World) (c c' : Compilation σ), step tc v c = some (v', c') →
        IsQuiet (deed? tc v c v') → v'.disk = v.disk ∨
          ∃ request token s, v'.disk = (tc.resume v request token s).1.disk := by
  have undisturbed : Undisturbed w w (new settings source tag options : Compilation σ).phase := rfl
  have hstarts : Starts source (EntryExtension.ofTag tag)
      (deeds tc fuel w (new settings source tag options)) :=
    rest_of_run tree names undisturbed h
  exact ⟨hstarts.inOrder, fun v v' c c' hstep quiet => (move_of_step hstep).disk_of_isQuiet quiet⟩

/-- A toolchain that writes its bundle and then returns only when it is told to stop. -/
def lingering : Toolchain (List ToolchainAction) :=
  .scripted [.bundle id, .awaitCancel, .finish (.ok Report.empty)]

/-- A call with a limit of one second. -/
def hurried : CompileOptions :=
  ⟨some (Duration.ofSecs 1), none⟩

/-- A toolchain that returns a report too late is waited for, and its bundle is not read. -/
theorem run_in_order_late :
    ∃ w' result, run lingering 20 keptWorld (new (.forProject ⟨"/tmp"⟩) "x" "js" hurried)
        = .ok (w', result) ∧
      keptWorld.disk.WellFormed ∧ (∀ n, '/' ∉ (keptWorld.names n).toList) ∧
      (deeds lingering 20 keptWorld (new (.forProject ⟨"/tmp"⟩) "x" "js" hurried)).map Deed.rank
        = [0, 1, 2, 3, 6] ∧
      InOrder "x" (EntryExtension.ofTag "js")
        (deeds lingering 20 keptWorld (new (.forProject ⟨"/tmp"⟩) "x" "js" hurried)) := by
  have tree : keptWorld.disk.WellFormed := by decide
  have letters : '/' ∉ "aaaaaa".toList := by decide
  have names : ∀ n, '/' ∉ (keptWorld.names n).toList := fun _ => letters
  have returns : (run lingering 20 keptWorld
      (new (.forProject ⟨"/tmp"⟩) "x" "js" hurried)).toOption.isSome = true := by decide +kernel
  have ranks : (deeds lingering 20 keptWorld
      (new (.forProject ⟨"/tmp"⟩) "x" "js" hurried)).map Deed.rank = [0, 1, 2, 3, 6] := by
    decide +kernel
  cases h : run lingering 20 keptWorld (new (.forProject ⟨"/tmp"⟩) "x" "js" hurried) with
  | error _ => simp [h, Except.toOption] at returns
  | ok returned =>
    obtain ⟨w', result⟩ := returned
    obtain ⟨hordered, -⟩ :=
      run_in_order lingering _ "x" "js" hurried 20 keptWorld w' result tree names h
    exact ⟨w', result, rfl, tree, names, ranks, hordered⟩

end SnippetForge.Compilation
