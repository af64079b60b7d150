import SnippetForge.Proofs.Compilation.Steps
import SnippetForge.Proofs.Toolchain.Discretion

/-!
# Cancelling compilations

Any number of compilations are under way in a world, one after the other or at once, and their
caller may hand the same token to several of them. A `History` is what has become of them, together
with a list of the *incidents* that have to do with tokens: the caller makes a token or cancels one,
the time of a compilation is up, or a toolchain fires its own token.

The tokens of the caller and those of the toolchains are kept apart by where they are in the tree:
each toolchain has a token below the one of its caller, what it may fire is below that, and no token
of the caller and none of another toolchain ever is. So the flag of a token of the caller says
whether the caller has cancelled it, and that of a toolchain's token whether its own compilation has
fired it. Everything else follows from how flags count downwards.
-/

namespace SnippetForge

open Tokens (Grows)

/-! ### What a step does with tokens -/

namespace Phase

variable {σ : Type}

/-- Whether the toolchain is still to be invoked. -/
def isAhead : Phase σ → Bool
  | .ready | .naming _ _ | .staged _ => true
  | _ => false

/-- Whether the toolchain has been told to stop and has not returned. -/
def isStopping : Phase σ → Bool
  | .stopping _ _ _ _ _ => true
  | _ => false

/-- What a toolchain that has not returned was asked for, its token, and the state that it is in. -/
def call? : Phase σ → Option (Request × TokenId × σ)
  | .bundling _ request token _ s | .stopping _ request token _ s => some (request, token, s)
  | _ => none

/-- The token of a toolchain that has not returned. -/
def token? (p : Phase σ) : Option TokenId :=
  p.call?.map fun call => call.2.1

/-- The failure that the compilation ends with. -/
def failure? : Phase σ → Option Failure
  | .closing _ (.error failure) | .finished (.error failure) => some failure
  | _ => none

lemma token?_of_call? {p : Phase σ} {request : Request} {k : TokenId} {s : σ}
    (h : p.call? = some (request, k, s)) : p.token? = some k := by
  rw [token?, h]
  rfl

lemma exists_call? {p : Phase σ} {k : TokenId} (h : p.token? = some k) :
    ∃ request s, p.call? = some (request, k, s) := by
  obtain ⟨⟨request, _, s⟩, hcall, rfl⟩ := Option.map_eq_some_iff.mp h
  exact ⟨request, s, hcall⟩

lemma isAhead_of_call? {p : Phase σ} {call : Request × TokenId × σ} (h : p.call? = some call) :
    p.isAhead = false := by
  cases p <;> first | rfl | cases h

lemma failure?_of_call? {p : Phase σ} {call : Request × TokenId × σ} (h : p.call? = some call) :
    p.failure? = none := by
  cases p <;> first | rfl | cases h

end Phase

namespace Compilation

section Touch

variable {σ : Type} {tc : Toolchain σ} {w w' : World} {c c' : Compilation σ}

/-- What a step of a compilation does with tokens. -/
inductive Touch (tc : Toolchain σ) (w : World) (c : Compilation σ) (w' : World)
    (c' : Compilation σ) : Prop
  /-- No toolchain is concerned. -/
  | idle (before : c.phase.call? = none) (after : c'.phase.call? = none)
      (ahead : c'.phase.isAhead = true → c.phase.isAhead = true)
      (givenUp : c'.phase.failure? = some .cancelled →
        c.phase.failure? = some .cancelled ∨ isCancelled w c.options = true)
      (same : w'.tokens = w.tokens) :
      Touch tc w c w' c'
  /-- The toolchain is invoked with a new token, below that of the caller. -/
  | invoke {v : World} {request : Request} (before : c.phase.isAhead = true)
      (tokens : v.tokens = (w.tokens.add c.options.token).1)
      (world : w' = (tc.start v request w.tokens.size).1)
      (after : c'.phase.call? = some (request, w.tokens.size,
        (tc.start v request w.tokens.size).2)) (timely : c'.phase.isStopping = false) :
      Touch tc w c w' c'
  /-- The toolchain makes a turn. -/
  | turn {request : Request} {k : TokenId} {s s' : σ}
      (before : c.phase.call? = some (request, k, s))
      (after : c'.phase.call? = some (request, k, s'))
      (stopping : c'.phase.isStopping = c.phase.isStopping)
      (resumed : tc.resume w request k s = (w', .running s')) :
      Touch tc w c w' c'
  /-- The time is up, and the token of the toolchain is fired. -/
  | expire {request : Request} {k : TokenId} {s : σ}
      (before : c.phase.call? = some (request, k, s)) (timely : c.phase.isStopping = false)
      (after : c'.phase.call? = some (request, k, s)) (late : c'.phase.isStopping = true)
      (fired : w'.tokens = w.tokens.fire k) :
      Touch tc w c w' c'
  /-- The toolchain returns. -/
  | halt {request : Request} {k : TokenId} {s : σ} {result : Except Failure Report}
      (before : c.phase.call? = some (request, k, s)) (after : c'.phase.call? = none)
      (past : c'.phase.isAhead = false)
      (returned : (tc.resume w request k s).2 = .finished result)
      (tokens : w'.tokens = (tc.resume w request k s).1.tokens)
      (givenUp : c'.phase.failure? = some .cancelled →
        c.phase.isStopping = false ∧ result = .error .cancelled) :
      Touch tc w c w' c'

/-- A step does one of these things. -/
lemma touch_of_move (h : Move tc w c w' c') : Touch tc w c w' c' := by
  have hbundle : ∀ {area : StagingArea} {request : Request} {report : Report}
      {read : Except Fault String}, (Phase.closing area (bundleOutcome request report read) :
        Phase σ).failure? ≠ some .cancelled := by
    intro area request report read hfailure
    cases read <;> cases hfailure
  cases h with
  | refrain h cancelled =>
    exact .idle (by rw [h]; rfl) rfl (fun h => by cases h) (fun _ => .inr cancelled) rfl
  | rootless h _ hroot =>
    refine .idle (by rw [h]; rfl) rfl (fun h => by cases h) (fun hfailure => ?_) rfl
    unfold StagingArea.parentOf at hroot
    split at hroot
    · cases hroot
    · cases hroot
      cases hfailure
  | seek h _ _ =>
    exact .idle (by rw [h]; rfl) rfl (fun _ => by rw [h]; rfl) (fun h => by cases h) rfl
  | exhaust h =>
    exact .idle (by rw [h]; rfl) rfl (fun h => by cases h) (fun h => by cases h) rfl
  | skip h _ =>
    exact .idle (by rw [h]; rfl) rfl (fun _ => by rw [h]; rfl) (fun h => by cases h) rfl
  | refuse h _ =>
    exact .idle (by rw [h]; rfl) rfl (fun h => by cases h) (fun h => by cases h) rfl
  | make h _ =>
    exact .idle (by rw [h]; rfl) rfl (fun _ => by rw [h]; rfl) (fun h => by cases h) rfl
  | @unwritten area failure h failed =>
    refine .idle (by rw [h]; rfl) rfl (fun h => by cases h) (fun hfailure => ?_) rfl
    obtain ⟨_, hstaging⟩ | ⟨_, hwritten⟩ :=
      StagingArea.writeEntry_cases area w.disk w.cwd c.extension c.source
    · rw [failed] at hstaging
      cases hstaging
      cases hfailure
    · rw [failed] at hwritten
      cases hwritten
  | invoke h _ => exact .invoke (by rw [h]; rfl) rfl rfl rfl rfl
  | work h resumed => exact .turn (by rw [h]; rfl) rfl (by rw [h]; rfl) resumed
  | @conclude _ request token _ s w₁ result h resumed =>
    have hhalt : (tc.resume w request token s).2 = .finished result := by rw [resumed]
    cases result with
    | error failure =>
      refine .halt (by rw [h]; rfl) rfl rfl hhalt (by rw [resumed]; rfl) fun hfailure => ?_
      obtain rfl : failure = .cancelled := Option.some.inj hfailure
      exact ⟨by rw [h]; rfl, rfl⟩
    | ok report =>
      exact .halt (by rw [h]; rfl) rfl rfl hhalt (by rw [resumed]; rfl) fun h => by cases h
  | expire h _ _ => exact .expire (by rw [h]; rfl) (by rw [h]; rfl) rfl rfl rfl
  | linger h resumed => exact .turn (by rw [h]; rfl) rfl (by rw [h]; rfl) resumed
  | halt h resumed =>
    exact .halt (by rw [h]; rfl) rfl rfl (by rw [resumed]) (by rw [resumed]; rfl)
      fun h => by cases h
  | read h _ =>
    exact .idle (by rw [h]; rfl) rfl (fun h => by cases h) (fun h => absurd h hbundle) rfl
  | listen h _ =>
    exact .idle (by rw [h]; rfl) rfl (fun h => by cases h) (fun h => by cases h) rfl
  | collect h _ =>
    exact .idle (by rw [h]; rfl) rfl (fun h => by cases h) (fun h => absurd h hbundle) rfl
  | @remove area outcome _ h _ =>
    refine .idle (by rw [h]; rfl) rfl (fun h => by cases h) (fun hfailure => .inl ?_) rfl
    rw [h]
    cases outcome with
    | ok value => cases hfailure
    | error failure => exact hfailure
  | @leave area outcome cleanup h stuck =>
    refine .idle (by rw [h]; rfl) rfl (fun h => by cases h) (fun hfailure => ?_) rfl
    cases outcome with
    | ok value =>
      obtain ⟨_, hcleanup⟩ | ⟨_, hclosed⟩ := StagingArea.close_cases area w.disk w.cwd
      · rw [stuck] at hcleanup
        cases hcleanup
        cases hfailure
      · rw [stuck] at hclosed
        cases hclosed
    | error failure =>
      rw [h]
      exact .inl hfailure

/-- A toolchain goes on with its token, or it is handed the next one. -/
lemma Touch.token?_cases (h : Touch tc w c w' c') {k : TokenId} (hk : c'.phase.token? = some k) :
    c.phase.token? = some k ∨ k = w.tokens.size := by
  obtain ⟨request', s', hcall⟩ := Phase.exists_call? hk
  cases h with
  | idle _ after _ _ _ =>
    rw [after] at hcall
    cases hcall
  | invoke _ _ _ after _ =>
    rw [after] at hcall
    cases hcall
    exact .inr rfl
  | turn before after _ _ =>
    rw [after] at hcall
    cases hcall
    exact .inl (Phase.token?_of_call? before)
  | expire before _ after _ _ =>
    rw [after] at hcall
    cases hcall
    exact .inl (Phase.token?_of_call? before)
  | halt _ after _ _ _ _ =>
    rw [after] at hcall
    cases hcall

end Touch

/-! ### Histories -/

/-- What happens to tokens. -/
inductive Incident (ι : Type*)
  /-- The caller makes a token. -/
  | made (token : TokenId)
  /-- The caller cancels a token. -/
  | cancelled (token : TokenId)
  /-- The time of a compilation is up, and it fires the token of its toolchain. -/
  | expired (i : ι)
  /-- A toolchain fires its own token. -/
  | resigned (i : ι)
  deriving DecidableEq

/-- A world, the compilations in it, and what has happened to tokens so far. -/
structure History {ι : Type*} (σ : ι → Type) where
  world : World
  compilations : ∀ i, Compilation (σ i)
  incidents : List (Incident ι)

section History

variable {ι : Type*} {σ : ι → Type} {tcs : ∀ i, Toolchain (σ i)}

/-- The incidents of a step. -/
def incidentsOf {τ : Type} (i : ι) (w : World) (c : Compilation τ) (w' : World)
    (c' : Compilation τ) : List (Incident ι) :=
  match c'.phase.token? with
  | some k =>
    if c'.phase.isStopping && !c.phase.isStopping then [.expired i]
    else if w'.tokens.isSet k && !w.tokens.isSet k then [.resigned i]
    else []
  | none => []

/-- What can happen next. The caller may make and cancel tokens of its own, any compilation that has
been handed such tokens may make a step, and the world may change in any other way. -/
inductive Happens [DecidableEq ι] (tcs : ∀ i, Toolchain (σ i)) (h : History σ) : History σ → Prop
  | make (parent : Option TokenId) (own : ∀ p, parent = some p → .made p ∈ h.incidents) :
      Happens tcs h ⟨h.world.withTokens (h.world.tokens.add parent).1, h.compilations,
        h.incidents ++ [.made (h.world.tokens.add parent).2]⟩
  | cancel {token : TokenId} (own : .made token ∈ h.incidents) :
      Happens tcs h ⟨h.world.withTokens (h.world.tokens.fire token), h.compilations,
        h.incidents ++ [.cancelled token]⟩
  | pass {w : World} (same : w.tokens = h.world.tokens) :
      Happens tcs h ⟨w, h.compilations, h.incidents⟩
  | step {i : ι} {w : World} {c : Compilation (σ i)}
      (own : ∀ t, (h.compilations i).options.token = some t → .made t ∈ h.incidents)
      (moves : Compilation.step (tcs i) h.world (h.compilations i) = some (w, c)) :
      Happens tcs h ⟨w, Function.update h.compilations i c,
        h.incidents ++ incidentsOf i h.world (h.compilations i) w c⟩

/-- Nothing has happened yet: no compilation has made a step. -/
structure History.IsUntouched (h : History σ) : Prop where
  wellFormed : h.world.tokens.WellFormed
  ready : ∀ i, (h.compilations i).phase = .ready
  nothing : h.incidents = []

/-! ### Tokens of the caller -/

/-- The tokens of the caller are below each other, and those that are fired are those that it has
cancelled. -/
structure Governs (incidents : List (Incident ι)) (tokens : Tokens) : Prop where
  wellFormed : tokens.WellFormed
  known : ∀ t, .made t ∈ incidents → t < tokens.size
  own : ∀ t, .cancelled t ∈ incidents → .made t ∈ incidents
  above : ∀ t p, .made t ∈ incidents → tokens.parent? t = some p → .made p ∈ incidents
  set : ∀ t, .made t ∈ incidents → (tokens.isSet t = true ↔ .cancelled t ∈ incidents)

namespace Governs

variable {incidents extra : List (Incident ι)} {tokens tokens' : Tokens} {region : Set TokenId}

/-- What is above a token of the caller is one too. -/
lemma of_isUnder (h : Governs incidents tokens) {t above : TokenId} (own : .made t ∈ incidents)
    (under : tokens.IsUnder t above) : .made above ∈ incidents := by
  induction under with
  | refl => exact own
  | step parent _ ih => exact ih (h.above _ _ own parent)

/-- A token of the caller counts as fired exactly if the caller has cancelled it or one above. -/
lemma isFired_iff (h : Governs incidents tokens) {t : TokenId} (own : .made t ∈ incidents) :
    tokens.isFired t = true ↔ ∃ u, tokens.IsUnder t u ∧ .cancelled u ∈ incidents := by
  rw [Tokens.isFired_iff h.wellFormed]
  exact exists_congr fun u => and_congr_right fun under => h.set u (h.of_isUnder own under)

/-- What happens below other tokens does not matter to those of the caller. -/
lemma of_grows (h : Governs incidents tokens) (grows : Grows region tokens tokens')
    (outside : ∀ t ∈ region, .made t ∉ incidents)
    (foreign : ∀ t, .made t ∉ extra ∧ .cancelled t ∉ extra) :
    Governs (incidents ++ extra) tokens' := by
  have hmade : ∀ t, .made t ∈ incidents ++ extra ↔ .made t ∈ incidents := fun t => by
    simp [(foreign t).1]
  have hcancelled : ∀ t, .cancelled t ∈ incidents ++ extra ↔ .cancelled t ∈ incidents :=
    fun t => by simp [(foreign t).2]
  refine ⟨grows.wellFormed h.wellFormed, fun t ht => ?_, fun t ht => ?_, fun t p ht hp => ?_,
    fun t ht => ?_⟩
  · exact (h.known t ((hmade t).mp ht)).trans_le grows.size
  · exact (hmade t).mpr (h.own t ((hcancelled t).mp ht))
  · rw [hmade] at ht ⊢
    rw [grows.parent t (h.known t ht)] at hp
    exact h.above t p ht hp
  · rw [hmade] at ht
    rw [hcancelled, grows.within t (h.known t ht) fun hin => outside t hin ht]
    exact h.set t ht

/-- A new token of the caller has not been fired. -/
lemma make (h : Governs incidents tokens) {parent : Option TokenId}
    (own : ∀ p, parent = some p → .made p ∈ incidents) :
    Governs (incidents ++ [.made tokens.size]) (tokens.add parent).1 := by
  obtain ⟨-, hsize, hparent, hset⟩ := tokens.add_spec parent
  have hgrows := tokens.grows_add fun p hp => h.known p (own p hp)
  have hold : ∀ t, .made t ∈ incidents ++ [.made tokens.size] →
      (.made t ∈ incidents ∧ t < tokens.size) ∨ t = tokens.size := by
    intro t ht
    rcases List.mem_append.mp ht with ht | ht
    · exact .inl ⟨ht, h.known t ht⟩
    · exact .inr (by simpa using ht)
  refine ⟨hgrows.wellFormed h.wellFormed, fun t ht => ?_, fun t ht => ?_, fun t p ht hp => ?_,
    fun t ht => ?_⟩
  · rw [hsize]
    rcases hold t ht with ⟨-, hlt⟩ | rfl
    · exact hlt.trans (Nat.lt_succ_self _)
    · exact Nat.lt_succ_self _
  · exact List.mem_append_left _ (h.own t (by simpa using ht))
  · refine List.mem_append_left _ ?_
    rcases hold t ht with ⟨ht, hlt⟩ | rfl
    · rw [hgrows.parent t hlt] at hp
      exact h.above t p ht hp
    · exact own p (hparent.symm.trans hp)
  · rcases hold t ht with ⟨ht, hlt⟩ | rfl
    · rw [hgrows.within t hlt (Set.notMem_empty t)]
      simpa using h.set t ht
    · have hfresh : .cancelled tokens.size ∉ incidents := fun hmem =>
        lt_irrefl _ (h.known _ (h.own _ hmem))
      simp [hset, hfresh]

/-- A token that the caller cancels is fired. -/
lemma cancel (h : Governs incidents tokens) {token : TokenId} (own : .made token ∈ incidents) :
    Governs (incidents ++ [.cancelled token]) (tokens.fire token) := by
  have hgrows := tokens.grows_fire token
  have hmade : ∀ t, .made t ∈ incidents ++ [.cancelled token] ↔ .made t ∈ incidents := by simp
  refine ⟨hgrows.wellFormed h.wellFormed, fun t ht => ?_, fun t ht => ?_, fun t p ht hp => ?_,
    fun t ht => ?_⟩
  · exact (h.known t ((hmade t).mp ht)).trans_le hgrows.size
  · rw [hmade]
    rcases List.mem_append.mp ht with ht | ht
    · exact h.own t ht
    · obtain rfl : t = token := by simpa using ht
      exact own
  · rw [hmade] at ht ⊢
    rw [hgrows.parent t (h.known t ht)] at hp
    exact h.above t p ht hp
  · rw [hmade] at ht
    rw [Tokens.isSet_fire, Bool.or_eq_true, h.set t ht, decide_eq_true_eq, List.mem_append,
      List.mem_singleton, Incident.cancelled.injEq]
    exact or_congr_right ⟨fun h => h.1, fun heq => ⟨heq, h.known token own⟩⟩

end Governs

/-! ### Tokens of toolchains -/

section Served

variable {τ : Type} {tc : Toolchain τ} {incidents extra : List (Incident ι)} {w w' : World} {i : ι}
  {c c' : Compilation τ} {region : Set TokenId}

/-- What is known of a compilation after some incidents. The token of its toolchain is below that of
the caller, and has been fired itself only by the compilation or the toolchain. -/
structure Served (tc : Toolchain τ) (incidents : List (Incident ι)) (w : World) (i : ι)
    (c : Compilation τ) : Prop where
  ahead : c.phase.isAhead = true → .expired i ∉ incidents ∧ .resigned i ∉ incidents
  timely : c.phase.isStopping = false → c.phase.call? ≠ none → .expired i ∉ incidents
  call : ∀ request k s, c.phase.call? = some (request, k, s) →
    k < w.tokens.size ∧ .made k ∉ incidents ∧ w.tokens.parent? k = c.options.token ∧
      (w.tokens.isSet k = true ↔ .expired i ∈ incidents ∨ .resigned i ∈ incidents) ∧
      tc.Attains request k w s
  granted : c.phase.call? ≠ none → ∀ t, c.options.token = some t → .made t ∈ incidents
  givenUp : c.phase.failure? = some .cancelled → tc.IsHonest → .resigned i ∉ incidents →
    ∃ t, c.options.token = some t ∧ .made t ∈ incidents ∧ w.tokens.isFired t = true

/-- The tokens that a toolchain may fire. -/
def reach (w : World) (c : Compilation τ) : Set TokenId :=
  {id | ∃ k, c.phase.token? = some k ∧ w.tokens.IsUnder id k}

/-- What happens elsewhere does not matter to a compilation. -/
lemma Served.of_grows (h : Served tc incidents w i c) (wellFormed : w.tokens.WellFormed)
    (grows : Grows region w.tokens w'.tokens)
    (outside : ∀ k, c.phase.token? = some k → k ∉ region)
    (foreign : .expired i ∉ extra ∧ .resigned i ∉ extra)
    (fresh : ∀ t, .made t ∈ extra → w.tokens.size ≤ t) : Served tc (incidents ++ extra) w' i c := by
  have hexpired : .expired i ∈ incidents ++ extra ↔ .expired i ∈ incidents := by
    simp [foreign.1]
  have hresigned : .resigned i ∈ incidents ++ extra ↔ .resigned i ∈ incidents := by
    simp [foreign.2]
  refine ⟨fun hahead => ?_, fun htimely hcall => ?_, fun request k s hcall => ?_,
    fun hcall t ht => List.mem_append_left _ (h.granted hcall t ht),
    fun hfailure honest hstays => ?_⟩
  · rw [hexpired, hresigned]
    exact h.ahead hahead
  · rw [hexpired]
    exact h.timely htimely hcall
  · obtain ⟨hlt, hmade, hparent, hset, hattains⟩ := h.call request k s hcall
    rw [hexpired, hresigned, grows.parent k hlt,
      grows.within k hlt (outside k (Phase.token?_of_call? hcall))]
    refine ⟨hlt.trans_le grows.size, fun hmem => ?_, hparent, hset,
      hattains.meanwhile (grows.isFired wellFormed)⟩
    rcases List.mem_append.mp hmem with hmem | hmem
    · exact hmade hmem
    · exact absurd hlt (not_lt.mpr (fresh k hmem))
  · rw [hresigned] at hstays
    obtain ⟨t, ht, hmade, hfired⟩ := h.givenUp hfailure honest hstays
    exact ⟨t, ht, List.mem_append_left _ hmade, grows.isFired wellFormed hfired⟩

/-- A toolchain that is started with a new token fires no old one. -/
lemma grows_start (discreet : tc.IsDiscreet) (wellFormed : w.tokens.WellFormed)
    {caller : Option TokenId} (known : ∀ t, caller = some t → t < w.tokens.size) {v : World}
    (tokens : v.tokens = (w.tokens.add caller).1) (request : Request) :
    Grows ∅ w.tokens (tc.start v request w.tokens.size).1.tokens ∧
      w.tokens.size < (tc.start v request w.tokens.size).1.tokens.size ∧
      (tc.start v request w.tokens.size).1.tokens.parent? w.tokens.size = caller := by
  obtain ⟨-, hsize, hparent, -⟩ := w.tokens.add_spec caller
  have hadd := w.tokens.grows_add known
  have hlt : w.tokens.size < v.tokens.size := by
    rw [tokens, hsize]
    exact Nat.lt_succ_self _
  have hstart := discreet.start v request w.tokens.size hlt
  rw [tokens] at hlt hstart
  -- What is under the new token is new itself.
  have hnew : ∀ id, id ∈ {id | (w.tokens.add caller).1.IsUnder id w.tokens.size} →
      w.tokens.size ≤ id := fun id hunder => hunder.le (hadd.wellFormed wellFormed)
  refine ⟨?_, hlt.trans_le hstart.size, (hstart.parent _ hlt).trans hparent⟩
  have hboth : Grows {id | w.tokens.size ≤ id} w.tokens
      (tc.start v request w.tokens.size).1.tokens :=
    (hadd.mono fun _ _ hin => hin.elim).trans (hstart.mono fun id _ hin => hnew id hin)
  exact hboth.mono fun id hid hin => absurd hid (not_lt.mpr hin)

/-- A turn fires nothing but what its toolchain may fire. -/
lemma Served.grows_resume (h : Served tc incidents w i c) (discreet : tc.IsDiscreet)
    {request : Request} {k : TokenId} {s : τ} (call : c.phase.call? = some (request, k, s)) :
    Grows (reach w c) w.tokens (tc.resume w request k s).1.tokens := by
  obtain ⟨hlt, -, -, -, hattains⟩ := h.call request k s call
  exact (discreet.resume hattains hlt).mono
    fun id _ hunder => ⟨k, Phase.token?_of_call? call, hunder⟩

/-- A step fires nothing but what its toolchain may fire. -/
lemma Touch.grows (h : Touch tc w c w' c') (discreet : tc.IsDiscreet)
    (governs : Governs incidents w.tokens) (served : Served tc incidents w i c)
    (own : ∀ t, c.options.token = some t → .made t ∈ incidents) :
    Grows (reach w c) w.tokens w'.tokens := by
  cases h with
  | idle _ _ _ _ same =>
    rw [same]
    exact .refl _ _
  | invoke _ tokens world _ _ =>
    rw [world]
    exact (grows_start discreet governs.wellFormed (fun t ht => governs.known t (own t ht)) tokens
      _).1.mono fun _ _ hin => hin.elim
  | @turn request k s s' before _ _ resumed =>
    have hgrows := served.grows_resume discreet before
    rwa [resumed] at hgrows
  | expire before _ _ _ fired =>
    rw [fired]
    refine (w.tokens.grows_fire _).mono fun id _ hid => ?_
    obtain rfl : id = _ := hid
    exact ⟨id, Phase.token?_of_call? before, .refl id⟩
  | halt before _ _ _ tokens _ =>
    rw [tokens]
    exact served.grows_resume discreet before

/-- A compilation whose toolchain has not returned has only that to be known of it. -/
lemma Served.of_call? {request : Request} {k : TokenId} {s : τ}
    (call : c.phase.call? = some (request, k, s)) (lt : k < w.tokens.size)
    (notMade : .made k ∉ incidents) (parent : w.tokens.parent? k = c.options.token)
    (set : w.tokens.isSet k = true ↔ .expired i ∈ incidents ∨ .resigned i ∈ incidents)
    (attains : tc.Attains request k w s)
    (granted : ∀ t, c.options.token = some t → .made t ∈ incidents)
    (timely : c.phase.isStopping = false → .expired i ∉ incidents) :
    Served tc incidents w i c where
  ahead hahead := by
    rw [Phase.isAhead_of_call? call] at hahead
    cases hahead
  timely htimely _ := timely htimely
  call request' k' s' hcall := by
    obtain ⟨rfl, rfl, rfl⟩ : request' = request ∧ k' = k ∧ s' = s := by
      simpa [call, eq_comm] using hcall
    exact ⟨lt, notMade, parent, set, attains⟩
  granted _ := granted
  givenUp hfailure := by
    rw [Phase.failure?_of_call? call] at hfailure
    cases hfailure

/-- The incidents of a step are those of its own compilation. -/
lemma incidentsOf_foreign (i : ι) (w : World) (c : Compilation τ) (w' : World)
    (c' : Compilation τ) :
    (∀ t, .made t ∉ incidentsOf i w c w' c' ∧ .cancelled t ∉ incidentsOf i w c w' c') ∧
      ∀ j, j ≠ i →
        .expired j ∉ incidentsOf i w c w' c' ∧ .resigned j ∉ incidentsOf i w c w' c' := by
  have hown : ∀ a ∈ incidentsOf i w c w' c', a = .expired i ∨ a = .resigned i := by
    intro a ha
    unfold incidentsOf at ha
    split at ha
    · split_ifs at ha
      · exact .inl (List.mem_singleton.mp ha)
      · exact .inr (List.mem_singleton.mp ha)
      · cases ha
    · cases ha
  exact ⟨fun t => ⟨fun h => by simpa using hown _ h, fun h => by simpa using hown _ h⟩,
    fun j hj => ⟨fun h => by simpa [hj] using hown _ h, fun h => by simpa [hj] using hown _ h⟩⟩

lemma incidentsOf_of_call? {request : Request} {k : TokenId} {s : τ}
    (call : c'.phase.call? = some (request, k, s)) :
    incidentsOf i w c w' c' =
      if c'.phase.isStopping && !c.phase.isStopping then [.expired i]
      else if w'.tokens.isSet k && !w.tokens.isSet k then [.resigned i] else [] := by
  rw [incidentsOf, Phase.token?_of_call? call]

/-- A step leaves a compilation with what has to be known of it. -/
lemma Touch.served (h : Touch tc w c w' c') (call : SameCall c c') (discreet : tc.IsDiscreet)
    (governs : Governs incidents w.tokens) (served : Served tc incidents w i c)
    (own : ∀ t, c.options.token = some t → .made t ∈ incidents) :
    Served tc (incidents ++ incidentsOf i w c w' c') w' i c' := by
  have hgrows := h.grows discreet governs served own
  have hgranted : ∀ t, c'.options.token = some t →
      .made t ∈ incidents ++ incidentsOf i w c w' c' := by
    intro t ht
    rw [call.options] at ht
    exact List.mem_append_left _ (own t ht)
  cases h with
  | idle before after ahead givenUp same =>
    have hnone : incidentsOf i w c w' c' = ([] : List (Incident ι)) := by
      rw [incidentsOf, Phase.token?, after]
      rfl
    rw [hnone, List.append_nil]
    refine ⟨fun h => served.ahead (ahead h), fun _ h => absurd after h, fun _ _ _ h => ?_,
      fun h => absurd after h, fun hfailure honest hstays => ?_⟩
    · rw [after] at h
      cases h
    · rw [call.options, same]
      obtain hbefore | hcancelled := givenUp hfailure
      · exact served.givenUp hbefore honest hstays
      · unfold isCancelled at hcancelled
        cases htoken : c.options.token with
        | none => simp [htoken] at hcancelled
        | some t =>
          rw [htoken] at hcancelled
          exact ⟨t, rfl, own t htoken, hcancelled⟩
  | @invoke v request before tokens world after timely =>
    obtain ⟨-, hlt, hparent⟩ := grows_start discreet governs.wellFormed
      (fun t ht => governs.known t (own t ht)) tokens request
    obtain ⟨hexpired, hresigned⟩ := served.ahead before
    rw [← world] at hlt hparent
    have hincidents : incidentsOf i w c w' c' =
        if w'.tokens.isSet w.tokens.size then [Incident.resigned i] else [] := by
      rw [incidentsOf_of_call? after, timely, Tokens.isSet_eq_false le_rfl]
      simp
    rw [hincidents]
    refine .of_call? after hlt (fun hmem => ?_) (hparent.trans (by rw [call.options])) ?_ ?_
      (hincidents ▸ hgranted) fun _ => ?_
    · refine absurd (governs.known w.tokens.size ?_) (lt_irrefl _)
      split at hmem <;> simpa using hmem
    · cases w'.tokens.isSet w.tokens.size <;> simp [hexpired, hresigned]
    · rw [world]
      exact .start v
    · split <;> simp [hexpired]
  | @turn request k s s' before after stopping resumed =>
    obtain ⟨hlt, hmade, hparent, hset, hattains⟩ := served.call request k s before
    have hincidents : incidentsOf i w c w' c' =
        if w'.tokens.isSet k && !w.tokens.isSet k then [Incident.resigned i] else [] := by
      rw [incidentsOf_of_call? after, stopping, Bool.and_not_self]
      rfl
    rw [hincidents]
    refine .of_call? after (hlt.trans_le hgrows.size) (fun hmem => hmade ?_) ?_ ?_
      (hattains.turn resumed) (hincidents ▸ hgranted) fun htimely => ?_
    · split at hmem <;> simpa using hmem
    · rw [hgrows.parent k hlt, hparent, call.options]
    · have hkept := hgrows.kept k
      revert hset hkept
      cases w'.tokens.isSet k <;> cases w.tokens.isSet k <;> simp
    · have hstays := served.timely (stopping ▸ htimely) (by rw [before]; simp)
      split <;> simp [hstays]
  | @expire request k s before timely after late fired =>
    obtain ⟨hlt, hmade, hparent, hset, hattains⟩ := served.call request k s before
    have hincidents : incidentsOf i w c w' c' = [Incident.expired i] := by
      rw [incidentsOf_of_call? after, late, timely]
      rfl
    rw [hincidents]
    refine .of_call? after (hlt.trans_le hgrows.size) (fun hmem => hmade (by simpa using hmem)) ?_
      ?_ (hattains.meanwhile (hgrows.isFired governs.wellFormed)) (hincidents ▸ hgranted)
      fun htimely => ?_
    · rw [hgrows.parent k hlt, hparent, call.options]
    · rw [fired, Tokens.isSet_fire]
      simp [hlt]
    · rw [late] at htimely
      cases htimely
  | @halt request k s result before after past returned tokens givenUp =>
    have hnone : incidentsOf i w c w' c' = ([] : List (Incident ι)) := by
      rw [incidentsOf, Phase.token?, after]
      rfl
    rw [hnone, List.append_nil]
    refine ⟨fun h => ?_, fun _ h => absurd after h, fun _ _ _ h => ?_, fun h => absurd after h,
      fun hfailure honest hstays => ?_⟩
    · rw [past] at h
      cases h
    · rw [after] at h
      cases h
    · -- An honest toolchain was fired; neither it nor its compilation has done so.
      obtain ⟨htimely, rfl⟩ := givenUp hfailure
      obtain ⟨-, -, hparent, hset, hattains⟩ := served.call request k s before
      have hexpired := served.timely htimely (by rw [before]; simp)
      have hfired := honest hattains returned
      rw [Tokens.isFired_iff_parent governs.wellFormed, hset, hparent] at hfired
      obtain (hself | hself) | ⟨t, ht, hfired⟩ := hfired
      · exact absurd hself hexpired
      · exact absurd hself hstays
      · rw [call.options]
        exact ⟨t, ht, own t ht, hgrows.isFired governs.wellFormed hfired⟩

end Served

/-! ### All compilations together -/

variable {h h' : History σ}

/-- What holds after any incidents. No two toolchains have the same token. -/
structure Sound (tcs : ∀ i, Toolchain (σ i)) (h : History σ) : Prop where
  governs : Governs h.incidents h.world.tokens
  served : ∀ i, Served (tcs i) h.incidents h.world i (h.compilations i)
  distinct : ∀ i j, i ≠ j → ∀ k, (h.compilations i).phase.token? = some k →
    (h.compilations j).phase.token? ≠ some k

lemma call?_of_ready {τ : Type} {p : Phase τ} (h : p = .ready) : p.call? = none := by
  rw [h]
  rfl

lemma Sound.untouched (untouched : h.IsUntouched) : Sound tcs h := by
  refine ⟨⟨untouched.wellFormed, ?_, ?_, ?_, ?_⟩, fun i => ⟨fun _ => ?_, fun _ _ => ?_, ?_, ?_, ?_⟩,
    fun i j _ k hk => ?_⟩
  all_goals try simp only [untouched.nothing, List.not_mem_nil, not_false_eq_true, and_self,
    IsEmpty.forall_iff, implies_true]
  · intro _ _ _ hcall
    rw [untouched.ready i] at hcall
    cases hcall
  · intro hcall
    exact absurd (call?_of_ready (untouched.ready i)) hcall
  · intro hfailure
    rw [untouched.ready i] at hfailure
    cases hfailure
  · rw [untouched.ready i] at hk
    cases hk

namespace Sound

/-- The token of a toolchain is none of the caller, and what is above it is one. -/
lemma of_token? (sound : Sound tcs h) {i : ι} {k : TokenId}
    (hk : (h.compilations i).phase.token? = some k) :
    k < h.world.tokens.size ∧ .made k ∉ h.incidents ∧
      ∀ p, h.world.tokens.parent? k = some p → .made p ∈ h.incidents := by
  obtain ⟨request, s, hcall⟩ := Phase.exists_call? hk
  obtain ⟨hlt, hmade, hparent, -, -⟩ := (sound.served i).call request k s hcall
  refine ⟨hlt, hmade, fun p hp => (sound.served i).granted (by simp [hcall]) p ?_⟩
  rw [← hparent, hp]

/-- A toolchain may fire no token of the caller. -/
lemma notMade_of_mem_reach (sound : Sound tcs h) {i : ι} {t : TokenId}
    (ht : t ∈ reach h.world (h.compilations i)) : .made t ∉ h.incidents := by
  obtain ⟨k, hk, hunder⟩ := ht
  exact fun own => (sound.of_token? hk).2.1 (sound.governs.of_isUnder own hunder)

/-- A toolchain may not fire the token of another one. -/
lemma notMem_reach (sound : Sound tcs h) {i j : ι} (hij : j ≠ i) {k : TokenId}
    (hk : (h.compilations j).phase.token? = some k) : k ∉ reach h.world (h.compilations i) := by
  rintro ⟨k', hk', hunder⟩
  rcases Tokens.isUnder_iff.mp hunder with rfl | ⟨p, hp, hunder⟩
  · exact sound.distinct j i hij k hk hk'
  · exact sound.notMade_of_mem_reach ⟨k', hk', hunder⟩ ((sound.of_token? hk).2.2 p hp)

/-- A step leaves it so. -/
lemma step [DecidableEq ι] (sound : Sound tcs h) (discreet : ∀ i, (tcs i).IsDiscreet) {i : ι}
    {w : World} {c : Compilation (σ i)}
    (own : ∀ t, (h.compilations i).options.token = some t → .made t ∈ h.incidents)
    (move : Move (tcs i) h.world (h.compilations i) w c) :
    Sound tcs ⟨w, Function.update h.compilations i c,
      h.incidents ++ incidentsOf i h.world (h.compilations i) w c⟩ := by
  have touch := touch_of_move move
  have grows := touch.grows (discreet i) sound.governs (sound.served i) own
  obtain ⟨hcaller, hothers⟩ := incidentsOf_foreign i h.world (h.compilations i) w c
  -- A token that a toolchain has after the step is one that it had, or it is new.
  have htoken : ∀ j k, (Function.update h.compilations i c j).phase.token? = some k →
      (h.compilations j).phase.token? = some k ∨ (j = i ∧ k = h.world.tokens.size) := by
    intro j k hk
    rcases eq_or_ne j i with rfl | hj
    · rw [Function.update_self] at hk
      exact (touch.token?_cases hk).imp_right fun hnew => ⟨rfl, hnew⟩
    · rw [Function.update_of_ne hj] at hk
      exact .inl hk
  refine ⟨sound.governs.of_grows grows (fun t => sound.notMade_of_mem_reach) hcaller, fun j => ?_,
    fun j j' hjj' k hk hk' => ?_⟩
  · rcases eq_or_ne j i with rfl | hj
    · simp only [Function.update_self]
      exact touch.served move.sameCall (discreet j) sound.governs (sound.served j) own
    · simp only [Function.update_of_ne hj]
      exact (sound.served j).of_grows sound.governs.wellFormed grows
        (fun k => sound.notMem_reach hj) (hothers j hj) fun t hmem => absurd hmem (hcaller t).1
  · obtain hold | ⟨rfl, rfl⟩ := htoken j k hk <;> obtain hold' | ⟨rfl, hnew⟩ := htoken j' _ hk'
    · exact sound.distinct j j' hjj' k hold hold'
    · exact (sound.of_token? hold).1.ne hnew
    · exact lt_irrefl _ (sound.of_token? hold').1
    · exact hjj' rfl

/-- Whatever happens next, it is still so. -/
lemma happens [DecidableEq ι] (sound : Sound tcs h) (discreet : ∀ i, (tcs i).IsDiscreet)
    (next : Happens tcs h h') : Sound tcs h' := by
  cases next with
  | make parent own =>
    have hgrows := h.world.tokens.grows_add fun p hp => sound.governs.known p (own p hp)
    refine ⟨sound.governs.make own, fun i => ?_, sound.distinct⟩
    refine (sound.served i).of_grows sound.governs.wellFormed hgrows (fun _ _ => Set.notMem_empty _)
      (by simp) fun t ht => ?_
    obtain rfl : t = _ := by simpa using ht
    exact le_rfl
  | @cancel token own =>
    refine ⟨sound.governs.cancel own, fun i => ?_, sound.distinct⟩
    refine (sound.served i).of_grows sound.governs.wellFormed (h.world.tokens.grows_fire token)
      (fun k hk heq => ?_) (by simp) (by simp)
    obtain rfl : k = token := heq
    exact (sound.of_token? hk).2.1 own
  | @pass w same =>
    have hgrows : Grows ∅ h.world.tokens w.tokens := by
      rw [same]
      exact .refl _ _
    have hgoverns : Governs (h.incidents ++ []) w.tokens :=
      sound.governs.of_grows hgrows (by simp) (by simp)
    rw [List.append_nil] at hgoverns
    refine ⟨hgoverns, fun i => ?_, sound.distinct⟩
    have hserved : Served (tcs i) (h.incidents ++ []) w i (h.compilations i) :=
      (sound.served i).of_grows sound.governs.wellFormed hgrows (fun _ _ => Set.notMem_empty _)
        (by simp) (by simp)
    rwa [List.append_nil] at hserved
  | step own moves => exact sound.step discreet own (move_of_step moves)

/-- Tokens that count as fired do so ever after. -/
lemma isFired_of_happens [DecidableEq ι] (sound : Sound tcs h) (discreet : ∀ i, (tcs i).IsDiscreet)
    (next : Happens tcs h h') {t : TokenId} (fired : h.world.tokens.isFired t = true) :
    h'.world.tokens.isFired t = true := by
  have wellFormed := sound.governs.wellFormed
  cases next with
  | make parent own =>
    exact (h.world.tokens.grows_add fun p hp => sound.governs.known p (own p hp)).isFired wellFormed
      fired
  | cancel own => exact (h.world.tokens.grows_fire _).isFired wellFormed fired
  | pass same =>
    rw [same]
    exact fired
  | @step i w c own moves =>
    exact ((touch_of_move (move_of_step moves)).grows (discreet i) sound.governs (sound.served i)
      own).isFired wellFormed fired

end Sound

/-- Whatever has happened, all of it holds. -/
lemma sound_of_past [DecidableEq ι] (discreet : ∀ i, (tcs i).IsDiscreet) {start : History σ}
    (untouched : start.IsUntouched) (past : Relation.ReflTransGen (Happens tcs) start h) :
    Sound tcs h := by
  induction past with
  | refl => exact .untouched untouched
  | tail _ next ih => exact ih.happens discreet next

/-- The caller has cancelled the token of a compilation, or one above it. -/
def History.IsRevoked (h : History σ) (i : ι) : Prop :=
  ∃ t, (h.compilations i).options.token = some t ∧ .made t ∈ h.incidents ∧
    ∃ u, h.world.tokens.IsUnder t u ∧ .cancelled u ∈ h.incidents

lemma Sound.isRevoked_iff (sound : Sound tcs h) {i : ι} :
    h.IsRevoked i ↔ ∃ t, (h.compilations i).options.token = some t ∧ .made t ∈ h.incidents ∧
      h.world.tokens.isFired t = true :=
  exists_congr fun _ => and_congr_right fun _ => and_congr_right fun own =>
    (sound.governs.isFired_iff own).symm

/-- The token of a toolchain counts as fired if the compilation, the toolchain or the caller has
done so. -/
lemma Sound.isFired_token_iff (sound : Sound tcs h) {i : ι} {k : TokenId}
    (hk : (h.compilations i).phase.token? = some k) :
    h.world.tokens.isFired k = true ↔
      .expired i ∈ h.incidents ∨ .resigned i ∈ h.incidents ∨ h.IsRevoked i := by
  obtain ⟨request, s, hcall⟩ := Phase.exists_call? hk
  obtain ⟨-, -, hparent, hset, -⟩ := (sound.served i).call request k s hcall
  have hgranted := (sound.served i).granted (by simp [hcall])
  rw [Tokens.isFired_iff_parent sound.governs.wellFormed, hset, hparent, sound.isRevoked_iff,
    or_assoc]
  refine or_congr_right (or_congr_right (exists_congr fun t => and_congr_right fun ht => ?_))
  exact ⟨fun hfired => ⟨hgranted t ht, hfired⟩, fun h => h.2⟩

/-- A compilation that has made no step when its token is fired is left as it is, or cancelled. -/
lemma Sound.of_revoked [DecidableEq ι] (sound : Sound tcs h) (discreet : ∀ i, (tcs i).IsDiscreet)
    {i : ι} (ready : (h.compilations i).phase = .ready) {t : TokenId}
    (token : (h.compilations i).options.token = some t)
    (fired : h.world.tokens.isFired t = true) (later : Relation.ReflTransGen (Happens tcs) h h') :
    Sound tcs h' ∧ h'.world.tokens.isFired t = true ∧
      (h'.compilations i = h.compilations i ∨
        h'.compilations i = (h.compilations i).enter (.finished (.error .cancelled))) := by
  induction later with
  | refl => exact ⟨sound, fired, .inl rfl⟩
  | @tail h₁ h₂ _ next ih =>
    obtain ⟨sound₁, fired₁, hi⟩ := ih
    refine ⟨sound₁.happens discreet next, sound₁.isFired_of_happens discreet next fired₁, ?_⟩
    cases next with
    | @step j w c _ moves =>
      rcases eq_or_ne i j with rfl | hij
      · simp only [Function.update_self]
        rcases hi with hi | hi
        · have hcancelled : isCancelled h₁.world (h.compilations i).options = true := by
            rw [isCancelled, token]
            exact fired₁
          rw [hi, (Move.refrain ready hcancelled).step_eq] at moves
          cases moves
          exact .inr rfl
        · rw [hi, step_eq_none_of_finished rfl] at moves
          cases moves
      · simp only [Function.update_of_ne hij]
        exact hi
    | _ => exact hi

/-- Whatever compilations are under way, one after the other or at once, and whichever of them run
out of time: a token of the caller is fired exactly if the caller has cancelled it or one above it.
The token of a toolchain is fired exactly if that is so for the caller's, or its own compilation has
run out of time, or the toolchain has fired it itself; so a compilation that ends as cancelled has
been cancelled by the caller. And one that makes its first step after the caller has cancelled does
nothing but end as cancelled. -/
theorem fired_only_by_caller [DecidableEq ι] (tcs : ∀ i, Toolchain (σ i))
    (discreet : ∀ i, (tcs i).IsDiscreet) {start h : History σ} (untouched : start.IsUntouched)
    (past : Relation.ReflTransGen (Happens tcs) start h) :
    (∀ t, .made t ∈ h.incidents → (h.world.tokens.isFired t = true ↔
      ∃ u, h.world.tokens.IsUnder t u ∧ .cancelled u ∈ h.incidents)) ∧
    (∀ i k, (h.compilations i).phase.token? = some k → (h.world.tokens.isFired k = true ↔
      .expired i ∈ h.incidents ∨ .resigned i ∈ h.incidents ∨ h.IsRevoked i)) ∧
    (∀ i, (tcs i).IsHonest → .resigned i ∉ h.incidents →
      (h.compilations i).result? = some (.error .cancelled) → h.IsRevoked i) ∧
    ∀ i, (h.compilations i).phase = .ready → h.IsRevoked i →
      ∀ h', Relation.ReflTransGen (Happens tcs) h h' →
        (h'.compilations i = h.compilations i ∧
          Compilation.step (tcs i) h'.world (h'.compilations i) = some (h'.world,
            (h.compilations i).enter (.finished (.error .cancelled)))) ∨
        h'.compilations i = (h.compilations i).enter (.finished (.error .cancelled)) := by
  have sound := sound_of_past discreet untouched past
  refine ⟨fun t own => sound.governs.isFired_iff own, fun i k hk => sound.isFired_token_iff hk,
    fun i honest hstays hresult => ?_, fun i ready revoked h' later => ?_⟩
  · have hfailure : (h.compilations i).phase.failure? = some .cancelled := by
      rw [result?_eq_some_iff.mp hresult]
      rfl
    exact sound.isRevoked_iff.mpr ((sound.served i).givenUp hfailure honest hstays)
  · obtain ⟨t, htoken, -, hfired⟩ := sound.isRevoked_iff.mp revoked
    obtain ⟨-, hfired', hi | hi⟩ := sound.of_revoked discreet ready htoken hfired later
    · refine .inl ⟨hi, ?_⟩
      rw [hi]
      refine (Move.refrain ready ?_).step_eq
      rw [isCancelled, htoken]
      exact hfired'
    · exact .inr hi

/-! ### The world by itself -/

/-- A world that goes on by itself fires tokens only by alarms and interrupts. -/
lemma tokens_of_advance? {w w' : World} {limits : List Nat} (passed : w.advance? limits = some w') :
    ∃ ids : List TokenId, (∀ t ∈ ids, (∃ time, (time, t) ∈ w.alarms) ∨ w.interrupted = some t) ∧
      w'.tokens = ids.foldl Tokens.fire w.tokens := by
  have hring : ∀ v : World, v.alarms = w.alarms → v.tokens = w.tokens → ∃ ids : List TokenId,
      (∀ t ∈ ids, (∃ time, (time, t) ∈ w.alarms) ∨ w.interrupted = some t) ∧
        v.ring.tokens = ids.foldl Tokens.fire w.tokens := by
    intro v halarms htokens
    refine ⟨(v.alarms.filter fun a => a.1 ≤ v.clock).map (·.2), fun t ht => .inl ?_, ?_⟩
    · obtain ⟨⟨time, _⟩, ha, rfl⟩ := List.mem_map.mp ht
      exact ⟨time, halarms ▸ List.mem_of_mem_filter ha⟩
    · rw [World.ring, List.foldl_map, htokens]
  unfold World.advance? at passed
  split at passed
  · cases passed
  split at passed
  · cases passed
    exact hring w rfl rfl
  split at passed
  · cases passed
    unfold World.hear
    cases hinterrupted : w.interrupted with
    | none => exact ⟨[], by simp, rfl⟩
    | some token =>
      dsimp only
      split
      · exact ⟨[token], by simp, rfl⟩
      · exact ⟨[], by simp, rfl⟩
  split at passed
  · cases passed
    exact ⟨[], by simp, rfl⟩
  · split at passed
    · cases passed
      exact hring _ rfl rfl
    · cases passed

/-- The caller may cancel several tokens. -/
lemma past_of_cancels [DecidableEq ι] (h : History σ) {ids : List TokenId}
    (own : ∀ t ∈ ids, .made t ∈ h.incidents) :
    Relation.ReflTransGen (Happens tcs) h
      ⟨h.world.withTokens (ids.foldl Tokens.fire h.world.tokens), h.compilations,
        h.incidents ++ ids.map .cancelled⟩ := by
  induction ids generalizing h with
  | nil =>
    rw [List.map_nil, List.append_nil]
    exact .refl
  | cons t ids ih =>
    have hrest := ih ⟨h.world.withTokens (h.world.tokens.fire t), h.compilations,
      h.incidents ++ [.cancelled t]⟩ fun t' ht' =>
        List.mem_append_left _ (own t' (List.mem_cons_of_mem t ht'))
    rw [List.append_assoc] at hrest
    exact .head (.cancel (own t List.mem_cons_self)) hrest

/-- If alarms and interrupts are set for tokens of the caller only, then a world that goes on by
itself does nothing that cannot happen. -/
lemma exists_past_of_advance? [DecidableEq ι] {w : World} {limits : List Nat}
    (alarms : ∀ a ∈ h.world.alarms, .made a.2 ∈ h.incidents)
    (interrupts : ∀ t, h.world.interrupted = some t → .made t ∈ h.incidents)
    (passed : h.world.advance? limits = some w) :
    ∃ incidents, Relation.ReflTransGen (Happens tcs) h ⟨w, h.compilations, incidents⟩ := by
  obtain ⟨ids, hids, htokens⟩ := tokens_of_advance? passed
  have own : ∀ t ∈ ids, .made t ∈ h.incidents := fun t ht =>
    (hids t ht).elim (fun ⟨time, ha⟩ => alarms (time, t) ha) (interrupts t)
  exact ⟨_, (past_of_cancels h own).tail (.pass htokens)⟩

/-! ### Histories that are played -/

/-- What somebody can be asked to do next. -/
inductive Doing (ι : Type*)
  /-- The caller is to make a token. -/
  | make (parent : Option TokenId)
  /-- The caller is to cancel a token. -/
  | cancel (token : TokenId)
  /-- Time is to pass. -/
  | tick (span : Nat)
  /-- A compilation is to make a step. -/
  | step (i : ι)

/-- What comes of it, unless it cannot be done. -/
def History.after? [DecidableEq ι] (tcs : ∀ i, Toolchain (σ i)) (h : History σ) :
    Doing ι → Option (History σ)
  | .make parent =>
    if ∀ p ∈ parent, .made p ∈ h.incidents then
      some ⟨h.world.withTokens (h.world.tokens.add parent).1, h.compilations,
        h.incidents ++ [.made (h.world.tokens.add parent).2]⟩
    else none
  | .cancel token =>
    if .made token ∈ h.incidents then
      some ⟨h.world.withTokens (h.world.tokens.fire token), h.compilations,
        h.incidents ++ [.cancelled token]⟩
    else none
  | .tick span =>
    some ⟨{ h.world with toMachine := h.world.toMachine.tick span }, h.compilations, h.incidents⟩
  | .step i =>
    if ∀ t ∈ (h.compilations i).options.token, .made t ∈ h.incidents then
      (Compilation.step (tcs i) h.world (h.compilations i)).map fun next =>
        ⟨next.1, Function.update h.compilations i next.2,
          h.incidents ++ incidentsOf i h.world (h.compilations i) next.1 next.2⟩
    else none

/-- Has some things done, one after the other. -/
def History.play? [DecidableEq ι] (tcs : ∀ i, Toolchain (σ i)) (h : History σ)
    (doings : List (Doing ι)) : Option (History σ) :=
  doings.foldlM (History.after? tcs) h

lemma happens_of_after? [DecidableEq ι] {doing : Doing ι} (played : h.after? tcs doing = some h') :
    Happens tcs h h' := by
  cases doing with
  | make parent =>
    rw [History.after?, Option.ite_none_right_eq_some] at played
    obtain ⟨own, played⟩ := played
    cases played
    exact .make parent fun p hp => own p hp
  | cancel token =>
    rw [History.after?, Option.ite_none_right_eq_some] at played
    obtain ⟨own, played⟩ := played
    cases played
    exact .cancel own
  | tick span =>
    cases played
    exact .pass rfl
  | step i =>
    rw [History.after?, Option.ite_none_right_eq_some, Option.map_eq_some_iff] at played
    obtain ⟨own, ⟨w, c⟩, moves, rfl⟩ := played
    exact .step (fun t ht => own t ht) moves

/-- What is played can happen. -/
lemma past_of_play? [DecidableEq ι] {doings : List (Doing ι)}
    (played : h.play? tcs doings = some h') : Relation.ReflTransGen (Happens tcs) h h' := by
  induction doings generalizing h with
  | nil =>
    cases played
    exact .refl
  | cons doing doings ih =>
    rw [History.play?, List.foldlM_cons, Option.bind_eq_bind, Option.bind_eq_some_iff] at played
    obtain ⟨next, hnext, hrest⟩ := played
    exact .head (happens_of_after? hnext) (ih hrest)

end History

/-- Three compilations with the same token, in a world in which none has been made. The first one
has a limit of a second. -/
def sharing : History fun _ : Fin 3 => List ToolchainAction where
  world := .fresh ⟨[(["tmp"], ⟨.directory, 1, Mode.directory, 0⟩)], 2, 0⟩ [] []
    fun n => if n = 0 then "aaaaaa" else "bbbbbb"
  compilations i := .new (.forProject ⟨"/tmp"⟩) "x" "js"
    ⟨if i = 0 then some (Duration.ofSecs 1) else none, some 0⟩
  incidents := []

/-- The caller makes the token, two compilations go as far as their toolchains, and the time of the
first one is up. -/
def lateDoings : List (Doing (Fin 3)) :=
  [.make none, .step 0, .step 0, .step 0, .step 1, .step 1, .step 1, .tick 2000000000, .step 0]

/-- The caller cancels, and the second compilation comes to its end. -/
def cancelDoings : List (Doing (Fin 3)) :=
  [.cancel 0, .step 1, .step 1, .step 1]

/-- When the time of the first compilation is up, only its own toolchain is told to stop. The second
one ends as cancelled when the caller cancels, and so would the third. -/
theorem fired_only_by_caller_sharing :
    ∃ h h', sharing.play? (fun _ => Toolchain.patient) lateDoings = some h ∧
      h.play? (fun _ => Toolchain.patient) cancelDoings = some h' ∧
      (h.world.tokens.isFired 0 = false ∧ h.world.tokens.isFired 1 = true ∧
        h.world.tokens.isFired 2 = false) ∧
      ((h'.compilations 1).result? = some (.error .cancelled) ∧ h'.IsRevoked 1) ∧
      Compilation.step Toolchain.patient h'.world (h'.compilations 2) = some (h'.world,
        (h'.compilations 2).enter (.finished (.error .cancelled))) := by
  have untouched : sharing.IsUntouched :=
    ⟨fun _ _ hp => (by cases hp), fun _ => rfl, rfl⟩
  have hlate : ((sharing.play? (fun _ => Toolchain.patient) lateDoings).map fun h =>
      (h.incidents, (h.compilations 0).phase.token?, (h.compilations 1).phase.token?))
      = some ([.made 0, .expired 0], some 1, some 2) := by
    decide +kernel
  have hcancel : ((sharing.play? (fun _ => Toolchain.patient) lateDoings).bind fun h =>
      (h.play? (fun _ => Toolchain.patient) cancelDoings).map fun h =>
        ((h.incidents, (h.compilations 1).result?), (h.compilations 2).options.token,
          (h.compilations 2).phase matches .ready))
      = some (([.made 0, .expired 0, .cancelled 0], some (.error .cancelled)), some 0, true) := by
    decide +kernel
  obtain ⟨h, played, hfacts⟩ := Option.map_eq_some_iff.mp hlate
  rw [played, Option.bind_some] at hcancel
  obtain ⟨h', played', hfacts'⟩ := Option.map_eq_some_iff.mp hcancel
  simp only [Prod.mk.injEq] at hfacts hfacts'
  obtain ⟨hincidents, hzero, hone⟩ := hfacts
  obtain ⟨⟨hincidents', hresult⟩, htoken, hready⟩ := hfacts'
  have past := past_of_play? played
  obtain ⟨hcaller, htoolchain, -, -⟩ :=
    fired_only_by_caller (fun _ => Toolchain.patient) (fun _ => Toolchain.isDiscreet_patient)
      untouched past
  obtain ⟨-, -, hgivenUp, hlater⟩ :=
    fired_only_by_caller (fun _ => Toolchain.patient) (fun _ => Toolchain.isDiscreet_patient)
      untouched (past.trans (past_of_play? played'))
  refine ⟨h, h', played, played', ⟨?_, ?_, ?_⟩, ⟨hresult, ?_⟩, ?_⟩
  · have hfired := hcaller 0 (by simp [hincidents])
    simpa [hincidents] using hfired
  · exact (htoolchain 0 1 hzero).mpr (.inl (by simp [hincidents]))
  · have hfired := htoolchain 1 2 hone
    simpa [hincidents, History.IsRevoked] using hfired
  · exact hgivenUp 1 Toolchain.isHonest_patient (by simp [hincidents']) hresult
  · have ready : (h'.compilations 2).phase = .ready := by
      cases hphase : (h'.compilations 2).phase <;> simp_all
    have revoked : h'.IsRevoked 2 :=
      ⟨0, htoken, by simp [hincidents'], 0, .refl 0, by simp [hincidents']⟩
    obtain ⟨-, hstep⟩ | hdone := hlater 2 ready revoked h' .refl
    · exact hstep
    · rw [hdone] at ready
      cases ready

end Compilation

end SnippetForge
