import SnippetForge.Proofs.Compilation.Interleaving

/-!
# Compilations in company and alone

A compilation in company is followed by the same call run alone on the disk of the start. Until it
has its area there is nothing to follow: alone, the name may be another one, and it may be found
sooner or later. From then on the two are paired, and stay so whatever the others do in between.
What is returned at the end is therefore the same, but for the name of the area.
-/

namespace SnippetForge.Compilation

open StagingArea Toolchain
open World (IsOrderly Changes)

section Alone

variable {σ : Type} {tc : Toolchain σ} {like : Likeness σ} {parent : Place} {root : Path}
  {settings : Settings} {source tag : String} {options : CompileOptions} {w₀ w w' v : World}
  {c c' : Compilation σ}

/-! ### A call alone -/

/-- A world for a call alone: the disk of the start, in which a name that is not taken is proposed
before too many are tried. -/
structure IsSolo (w₀ : World) (root : Path) (v : World) : Prop where
  orderly : v.IsOrderly
  disk : ∀ q, v.disk.entry? q = w₀.disk.entry? q
  cwd : v.cwd = w₀.cwd
  finds : ∀ parent, parentOf v.disk v.cwd root = .ok parent →
    ∃ n < maxTries, attempt v.disk v.cwd parent (v.names (v.drawn + n)) ≠ .taken

lemma IsSolo.parentOf_eq (solo : IsSolo w₀ root v) (p : Path) :
    parentOf v.disk v.cwd p = parentOf w₀.disk w₀.cwd p := by
  rw [solo.cwd]
  exact parentOf_congr (fun q => by rw [Disk.node?, Disk.node?, solo.disk]) _ _

-- Left reducible, these are unfolded down to the bytes of their paths.
attribute [local irreducible] StagingArea.attempt StagingArea.writeEntry StagingArea.close

/-- A search that is proposed a name in time stops at the first that is not taken. -/
lemma search_eq {d : Disk} {cwd : Place} {names : Nat → String} {tries drawn : Nat}
    (h : ∃ n < tries, attempt d cwd parent (names (drawn + n)) ≠ .taken) :
    ∃ n, (∃ fault, attempt d cwd parent (names n) = .failed fault ∧
        search d cwd parent names tries drawn = (n + 1, .error fault)) ∨
      ∃ area disk, attempt d cwd parent (names n) = .made area disk ∧
        search d cwd parent names tries drawn = (n + 1, .ok (area, disk)) := by
  induction tries generalizing drawn with
  | zero =>
    obtain ⟨n, hn, -⟩ := h
    exact absurd hn (Nat.not_lt_zero n)
  | succ tries ih =>
    rw [search_succ]
    cases hattempt : attempt d cwd parent (names drawn) with
    | made area disk => exact ⟨drawn, .inr ⟨area, disk, hattempt, rfl⟩⟩
    | failed fault => exact ⟨drawn, .inl ⟨fault, hattempt, rfl⟩⟩
    | taken =>
      refine ih ?_
      obtain ⟨n, hn, huntaken⟩ := h
      cases n with
      | zero => exact absurd hattempt huntaken
      | succ n =>
        refine ⟨n, Nat.lt_of_succ_lt_succ hn, ?_⟩
        rw [Nat.succ_add, ← Nat.add_succ]
        exact huntaken

/-- When a name is tried in company that is not taken, a call alone comes to the same: either no
area can be made, or both make theirs. -/
lemma exists_solo (solo : IsSolo w₀ settings.stagingRoot v) (orderly : w.IsOrderly)
    (hroot : parentOf v.disk v.cwd settings.stagingRoot = .ok parent)
    (agree : ∀ above, above <+: parent → w.disk.entry? above = w₀.disk.entry? above)
    (untaken : attempt w.disk w.cwd parent (w.names w.drawn) ≠ .taken) :
    ∃ random, IsRandomPart random ∧
      ((∃ fault v', attempt w.disk w.cwd parent (w.names w.drawn) =
            .failed (.at (below parent (w.names w.drawn)).path fault) ∧
          Ends tc (v, new settings source tag options) v'
            (.error (.staging settings.stagingRoot (.at (below parent random).path fault)))) ∨
        ∃ v' d, Admits w.disk parent (w.names w.drawn) ∧
          Reaches tc (v, new settings source tag options) (v', d) ∧
          SameCall (new settings source tag options) d ∧ d.phase = .staged (below parent random) ∧
          Hosts v' parent random ∧ ∀ rel, contentOf v' parent random rel = none) := by
  obtain ⟨node, hnode, hreal⟩ := exists_node_of_parentOf solo.orderly.tree solo.orderly.standing
    hroot
  have hleads := leads_new_live tc settings source tag (isCancelled_eq_false solo.orderly options)
  obtain ⟨n, hsearch⟩ := search_eq (solo.finds parent hroot)
  have lettered := solo.orderly.names n
  have huntaken : attempt v.disk v.cwd parent (v.names n) ≠ .taken := by
    rcases hsearch with ⟨fault, hattempt, -⟩ | ⟨area, disk, hattempt, -⟩ <;> simp [hattempt]
  have hagree : ∀ above, above <+: parent → w.disk.entry? above = v.disk.entry? above :=
    fun above h => (agree above h).trans (solo.disk above).symm
  refine ⟨v.names n, lettered, ?_⟩
  rcases attempt_alike lettered (orderly.names w.drawn) solo.orderly.tree hnode hreal hagree huntaken
    untaken with ⟨fault, hfailed, hfailed'⟩ | ⟨admits, admits'⟩
  · rcases hsearch with ⟨fault', hattempt, hsearch⟩ | ⟨area, disk, hattempt, -⟩
    · rw [hfailed, Attempt.failed.injEq] at hattempt
      have hcreate : create v.disk v.cwd settings.stagingRoot v.names v.drawn =
          (n + 1, .error (.staging settings.stagingRoot fault')) := by
        simp only [create, hroot, hsearch]
      rw [hcreate, ← hattempt] at hleads
      exact .inl ⟨fault, _, hfailed', _, hleads.reaches, rfl⟩
    · rw [hfailed] at hattempt
      cases hattempt
  · have hmade : attempt v.disk v.cwd parent (v.names n) = .made (below parent (v.names n))
        (v.disk.add (placeBelow parent (v.names n)) .directory Mode.secluded) :=
      admits.attempt_eq solo.orderly.tree lettered
    rcases hsearch with ⟨fault', hattempt, -⟩ | ⟨area, disk, hattempt, hsearch⟩
    · rw [hmade] at hattempt
      cases hattempt
    · have hcreate : create v.disk v.cwd settings.stagingRoot v.names v.drawn =
          (n + 1, .ok (area, disk)) := by
        simp only [create, hroot, hsearch]
      rw [hmade, Attempt.made.injEq] at hattempt
      obtain ⟨rfl, rfl⟩ := hattempt
      rw [hcreate] at hleads
      have hopened : Changes ∅ v (opened v tag) := solo.orderly.noted rfl rfl rfl rfl
      obtain ⟨-, hhosts, hempty⟩ := hosts_made hopened.orderly lettered admits (n + 1)
        (below parent (v.names n)).createdLine
      exact .inr ⟨_, _, admits', hleads.reaches, ⟨rfl, rfl, rfl, rfl⟩, rfl, hhosts, hempty⟩

/-- A call returns after some steps of its own, without having to wait and before its time is up. -/
inductive ReturnsIn (tc : Toolchain σ) : ℕ → World × Compilation σ → Prop
  | finished {w : World} {c : Compilation σ} {result : Except Failure Bundle}
      (h : c.phase = .finished result) : ReturnsIn tc 0 (w, c)
  | step {n : ℕ} {w w' : World} {c c' : Compilation σ} (h : step tc w c = some (w', c'))
      (calm : IsCalm c') (rest : ReturnsIn tc n (w', c')) : ReturnsIn tc (n + 1) (w, c)

/-- One step less is left after a step. -/
lemma ReturnsIn.of_next {n : ℕ} {s t : World × Compilation σ} (h : ReturnsIn tc n s)
    (hnext : Next tc s t) : ∃ k, n = k + 1 ∧ ReturnsIn tc k t := by
  cases h with
  | finished h => exact absurd hnext (not_next_of_finished h)
  | step h _ rest =>
    rw [next_unique hnext (.step h)]
    exact ⟨_, rfl, rest⟩

lemma ReturnsIn.of_reaches {n : ℕ} {s t : World × Compilation σ} (h : ReturnsIn tc n s)
    (hreach : Reaches tc s t) : ∃ k ≤ n, ReturnsIn tc k t := by
  induction hreach with
  | refl => exact ⟨n, le_rfl, h⟩
  | tail _ hnext ih =>
    obtain ⟨k, hk, hreturns⟩ := ih
    obtain ⟨k', rfl, hreturns'⟩ := hreturns.of_next hnext
    exact ⟨k', (Nat.le_succ k').trans hk, hreturns'⟩

/-! ### In company -/

/-- How many steps a call may make that alone makes `n`: it may have to try more names. -/
def allowance (n : ℕ) : ℕ :=
  n + maxTries + 1

/-- How a compilation in company, after some steps of its own, compares with a call alone. -/
inductive Follows (tc : Toolchain σ) (like : Likeness σ) (parent : Place) (v : World)
    (c₀ : Compilation σ) (spent : ℕ) (w : World) (c : Compilation σ) : Prop
  | ready (h : c.phase = .ready) (unspent : spent = 0)
  | naming {tries : ℕ} (h : c.phase = .naming parent (tries + 1))
      (root : parentOf v.disk v.cwd c₀.settings.stagingRoot = .ok parent)
      (left : spent + tries ≤ maxTries)
  | holding {random random' : String} {v' : World} {d : Compilation σ}
      (reach : Reaches tc (v, c₀) (v', d)) (paired : Paired like parent random random' w c v' d)
      (left : ∀ n, ReturnsIn tc n (v, c₀) → ∃ k, ReturnsIn tc k (v', d) ∧ spent + k ≤ allowance n)
  | finished {random random' : String} {v' : World} {result result' : Except Failure Bundle}
      (h : c.phase = .finished result) (lettered : IsRandomPart random)
      (lettered' : IsRandomPart random') (ends : Ends tc (v, c₀) v' result')
      (alike : ResultsAlike (below parent random).path (below parent random').path result result')
      (left : ∀ n, ReturnsIn tc n (v, c₀) → spent ≤ allowance n)

/-- What others do makes no difference. -/
lemma Follows.of_changes {region : Set Place} {c₀ : Compilation σ} {spent : ℕ}
    (follows : Follows tc like parent v c₀ spent w c) (changes : Changes region w w')
    (disjoint : Disjoint (areaTree parent c) region) : Follows tc like parent v c₀ spent w' c := by
  cases follows with
  | ready h unspent => exact .ready h unspent
  | naming h root left => exact .naming h root left
  | holding reach paired left =>
    rw [areaTree_of_some paired.hosts.lettered paired.phases.area?_eq] at disjoint
    exact .holding reach (paired.of_changes changes disjoint) left
  | finished h lettered lettered' ends alike left =>
    exact .finished h lettered lettered' ends alike left

/-- A move in company is followed by the call alone. -/
lemma Follows.move {spent : ℕ}
    (follows : Follows tc like parent v (new settings source tag options) spent w c)
    (solo : IsSolo w₀ settings.stagingRoot v) (orderly : w.IsOrderly)
    (call : SameCall (new settings source tag options) c)
    (roots : parentOf w.disk w.cwd settings.stagingRoot =
      parentOf w₀.disk w₀.cwd settings.stagingRoot)
    (place : ∀ p, parentOf w₀.disk w₀.cwd settings.stagingRoot = .ok p → p = parent)
    (agree : ∀ above, above <+: parent → w.disk.entry? above = w₀.disk.entry? above)
    (confined : IsConfinedBy tc c.settings c.source c.tag parent like) (move : Move tc w c w' c')
    (calm : IsCalm c') :
    Follows tc like parent v (new settings source tag options) (spent + 1) w' c' := by
  have hsettings : c.settings = settings := call.settings
  have hroots := roots.trans (solo.parentOf_eq settings.stagingRoot).symm
  cases follows with
  | ready h unspent =>
    subst unspent
    obtain ⟨-, ⟨p, hp, h'⟩ | ⟨failure, hfailure, h'⟩⟩ := move_of_ready orderly h move
    · rw [hsettings] at hp
      obtain rfl := place p (roots.symm.trans hp)
      have hphase : c'.phase = .naming p (65535 + 1) := h'
      exact .naming hphase (hroots.symm.trans hp) (by decide)
    · rw [hsettings] at hfailure
      have hsolo : Move tc v (new settings source tag options) _ _ :=
        .rootless rfl (isCancelled_eq_false solo.orderly options) (hroots.symm.trans hfailure)
      have hends := (ends_of_move hsolo).mpr ((ends_finished rfl).mpr ⟨rfl, rfl⟩)
      exact .finished h' (orderly.names 0) (orderly.names 0) hends (.failed (.same failure))
        fun n _ => by unfold allowance; omega
  | @naming tries h root left =>
    have hroot : parentOf w.disk w.cwd settings.stagingRoot = .ok parent := hroots.trans root
    cases namesOne_of_move orderly hroot h move with
    | exhausted hnone _ _ _ =>
      rw [h] at hnone
      cases hnone
    | @skipped tries' hbefore h' _ =>
      rw [h] at hbefore
      cases hbefore
      cases tries with
      | zero => exact absurd h' (calm.named parent)
      | succ tries => exact .naming h' root (by omega)
    | @refused fault failed h' _ =>
      obtain ⟨random, lettered, ⟨fault', v', hfailed, hends⟩ | ⟨v', d, admits, -⟩⟩ :=
        @exists_solo _ tc _ _ source tag options _ _ _ solo orderly root agree (by simp [failed])
      · rw [failed, Attempt.failed.injEq] at hfailed
        rw [hfailed, hsettings] at h'
        exact .finished h' (orderly.names w.drawn) lettered hends
          (.failed (.staging (.same _) (.at (.inside []) (.same fault'))))
          fun n _ => by unfold allowance; omega
      · rw [admits.attempt_eq orderly.tree (orderly.names w.drawn)] at failed
        cases failed
    | made admits h' _ hosts empty =>
      have hmade := @Admits.attempt_eq _ w.cwd _ _ orderly.tree (orderly.names w.drawn) admits
      obtain ⟨random, lettered, ⟨fault', v', hfailed, -⟩ | ⟨v', d, -, hreach, hcall, hd, hosts',
          empty'⟩⟩ :=
        @exists_solo _ tc _ _ source tag options _ _ _ solo orderly root agree (by simp [hmade])
      · rw [hmade] at hfailed
        cases hfailed
      · refine .holding hreach ⟨hosts, hosts', (call.trans move.sameCall).symm.trans hcall, ?_⟩
          fun n hn => ?_
        · rw [h', hd]
          exact .staged empty empty'
        · obtain ⟨k, hk, hreturns⟩ := hn.of_reaches hreach
          exact ⟨k, hreturns, by unfold allowance; omega⟩
  | holding reach paired left =>
    obtain ⟨v'', d'', hmove, halike⟩ := paired.moves confined move calm
    have hleft : ∀ n, ReturnsIn tc n (v, new settings source tag options) →
        ∃ k, ReturnsIn tc k (v'', d'') ∧ spent + 1 + k ≤ allowance n := by
      intro n hn
      obtain ⟨k, hk, hle⟩ := left n hn
      obtain ⟨k', rfl, hk'⟩ := hk.of_next hmove.next
      exact ⟨k', hk', by omega⟩
    cases halike with
    | on _ next => exact .holding (reach.tail hmove.next) next hleft
    | off h h' alike _ _ =>
      refine .finished h paired.hosts.lettered paired.hosts'.lettered
        ⟨d'', reach.tail hmove.next, h'⟩ alike fun n hn => ?_
      obtain ⟨k, -, hle⟩ := hleft n hn
      omega
  | finished h _ _ _ _ _ =>
    have hstuck : step tc w c = none := step_eq_none_of_finished h
    rw [move.step_eq] at hstuck
    cases hstuck

end Alone

/-! ### All of them -/

section Company

variable {ι : Type*} [DecidableEq ι] {σ : ι → Type} {tcs : ∀ i, Toolchain (σ i)}
  {likes : ∀ i, Likeness (σ i)} {root : Path} {parent : Place} {settings : ι → Settings}
  {sources tags : ι → String} {options : ι → CompileOptions} {w₀ w : World}
  {cs : ∀ i, Compilation (σ i)} {s : Company σ}

/-- Several calls before their first steps. -/
def calls (settings : ι → Settings) (sources tags : ι → String) (options : ι → CompileOptions)
    (i : ι) : Compilation (σ i) :=
  new (settings i) (sources i) (tags i) (options i)

/-- Two results are the same but for the random part of the name of an area and for the time that
has been measured. -/
def SameButName (result result' : Except Failure Bundle) : Prop :=
  ∃ parent random random', IsRandomPart random ∧ IsRandomPart random' ∧
    ResultsAlike (below parent random).path (below parent random').path result result'

end Company

/-- A world with a directory for staging, in which the same name is proposed twice. -/
def crowdedWorld : World :=
  .fresh ⟨[(["tmp"], ⟨.directory, 1, Mode.directory, 0⟩)], 2, 0⟩ [] []
    fun n => if n < 2 then "aaaaaa" else "bbbbbb"

/-- A toolchain that adds a line to the entry. -/
def appending : Toolchain (List ToolchainAction) :=
  .scripted [.bundle (· ++ "done()"), .finish (.ok Report.empty)]

end SnippetForge.Compilation
