import SnippetForge.Proofs.Compilation.Pairs

/-!
# Compilations that share a world

Any number of compilations with the same staging root take turns in one world, in any order. What
keeps them apart is who owns which tree: every area belongs to the one compilation that has made it,
and every move changes nothing but the trees that its own compilation has before or after it. A name
that a compilation has given up may be taken by another one later; at each moment the trees are
disjoint, and what lies outside of them is what the world had at the start.
-/

namespace SnippetForge.Compilation

open StagingArea Toolchain
open World (IsOrderly Changes)

/-! ### Taking turns -/

section Turns

variable {ι : Type*} {σ : ι → Type} [DecidableEq ι]

/-- A world with the compilations that are under way in it. -/
abbrev Company (σ : ι → Type) := World × ∀ i, Compilation (σ i)

/-- Compilations take turns, in any order, from one state to another. Time may pass in between. None
of them runs out of names, and nobody's time is up. -/
inductive Interleaves (tcs : ∀ i, Toolchain (σ i)) (s : Company σ) : List ι → Company σ → Prop
  | refl : Interleaves tcs s [] s
  | step {turns : List ι} {w w' : World} {cs : ∀ i, Compilation (σ i)} {i : ι}
      {c' : Compilation (σ i)} (before : Interleaves tcs s turns (w, cs))
      (h : Compilation.step (tcs i) w (cs i) = some (w', c')) (calm : IsCalm c') :
      Interleaves tcs s (turns ++ [i]) (w', Function.update cs i c')
  | tick {turns : List ι} {w : World} {cs : ∀ i, Compilation (σ i)}
      (before : Interleaves tcs s turns (w, cs)) (span : Nat) :
      Interleaves tcs s turns ({ w with toMachine := w.toMachine.tick span }, cs)

/-- Lets compilations take some turns, none if they cannot be taken. -/
def takeTurns (tcs : ∀ i, Toolchain (σ i)) : List ι → Company σ → Option (Company σ)
  | [], s => some s
  | i :: turns, (w, cs) =>
    match Compilation.step (tcs i) w (cs i) with
    | some (w', c') =>
      if IsCalm c' then takeTurns tcs turns (w', Function.update cs i c') else none
    | none => none

/-- Turns that are taken go on with what has been taken before. -/
lemma Interleaves.takeTurns {tcs : ∀ i, Toolchain (σ i)} {start s t : Company σ}
    {before turns : List ι} (hbefore : Interleaves tcs start before s)
    (hs : Compilation.takeTurns tcs turns s = some t) :
    Interleaves tcs start (before ++ turns) t := by
  induction turns generalizing before s with
  | nil =>
    cases hs
    rw [List.append_nil]
    exact hbefore
  | cons i turns ih =>
    obtain ⟨w, cs⟩ := s
    unfold Compilation.takeTurns at hs
    split at hs
    · next w' c' hstep =>
      split at hs
      · next calm =>
        have hall := ih (hbefore.step hstep calm) hs
        rwa [List.append_assoc, List.singleton_append] at hall
      · cases hs
    · cases hs

end Turns

/-! ### What a compilation owns -/

section Own

variable {σ : Type} {tc : Toolchain σ} {like : Likeness σ} {parent : Place} {random : String}
  {w₀ w w' : World} {c c' : Compilation σ}

/-- The tree of the area of a compilation, if it has one. -/
def areaTree (parent : Place) (c : Compilation σ) : Set Place :=
  {q | ∃ random, IsRandomPart random ∧ c.phase.area? = some (below parent random) ∧
    q ∈ (placeBelow parent random).tree}

lemma areaTree_of_none (h : c.phase.area? = none) : areaTree parent c = ∅ := by
  ext q
  simp [areaTree, h]

lemma areaTree_of_some (lettered : IsRandomPart random)
    (h : c.phase.area? = some (below parent random)) :
    areaTree parent c = (placeBelow parent random).tree := by
  ext q
  constructor
  · rintro ⟨random', lettered', harea, hq⟩
    rw [h, Option.some.injEq] at harea
    rw [below_inj lettered lettered' harea]
    exact hq
  · exact fun hq => ⟨random, lettered, h, hq⟩

/-- Where a compilation stands among others that started in a world. While it has an area, that is
its own, and what is in it is what its toolchain has made there. -/
inductive Stands (like : Likeness σ) (parent : Place) (w₀ w : World) (c : Compilation σ) : Prop
  | ready (h : c.phase = .ready)
  | naming {tries : Nat} (h : c.phase = .naming parent tries)
      (root : parentOf w₀.disk w₀.cwd c.settings.stagingRoot = .ok parent)
  | holding {random : String} (root : parentOf w₀.disk w₀.cwd c.settings.stagingRoot = .ok parent)
      (free : w₀.disk.entry? (placeBelow parent random) = none)
      (paired : Paired like parent random random w c w c)
  | finished {result : Except Failure Bundle} (h : c.phase = .finished result)

/-- What a compilation with an area knows of it. -/
lemma Stands.holds {area : StagingArea} (stands : Stands like parent w₀ w c)
    (h : c.phase.area? = some area) :
    ∃ random, area = below parent random ∧
      parentOf w₀.disk w₀.cwd c.settings.stagingRoot = .ok parent ∧
      w₀.disk.entry? (placeBelow parent random) = none ∧ Paired like parent random random w c w c := by
  cases stands with
  | ready hphase => simp [hphase, Phase.area?] at h
  | naming hphase _ => simp [hphase, Phase.area?] at h
  | @holding random root free paired =>
    rw [paired.phases.area?_eq, Option.some.injEq] at h
    exact ⟨random, h.symm, root, free, paired⟩
  | finished hphase => simp [hphase, Phase.area?] at h

/-- Changes elsewhere leave a pair as it is. -/
lemma Paired.of_changes {region : Set Place} {random' : String} {v : World} {d : Compilation σ}
    (paired : Paired like parent random random' w c v d) (changes : Changes region w w')
    (disjoint : Disjoint (placeBelow parent random).tree region) :
    Paired like parent random random' w' c v d := by
  obtain ⟨hosts, hcontent⟩ := paired.hosts.of_changes changes disjoint
  refine ⟨hosts, paired.hosts', paired.call, ?_⟩
  rw [hcontent]
  exact paired.phases

/-- Changes elsewhere leave a compilation where it stands. -/
lemma Stands.of_changes {region : Set Place} (stands : Stands like parent w₀ w c)
    (changes : Changes region w w') (disjoint : Disjoint (areaTree parent c) region) :
    Stands like parent w₀ w' c := by
  cases stands with
  | ready h => exact .ready h
  | naming h root => exact .naming h root
  | @holding random root free paired =>
    rw [areaTree_of_some paired.hosts.lettered paired.phases.area?_eq] at disjoint
    obtain ⟨hosts, hcontent⟩ := paired.hosts.of_changes changes disjoint
    refine .holding root free ⟨hosts, hosts, paired.call, ?_⟩
    rw [hcontent]
    exact paired.phases
  | finished h => exact .finished h

/-! ### What a move changes -/

/-- A move changes nothing but the trees that its compilation has before or after it. A tree that it
gives up is gone, and one that it takes was free. -/
structure MovesWithin (parent : Place) (w : World) (c : Compilation σ) (w' : World)
    (c' : Compilation σ) : Prop where
  changes : Changes (areaTree parent c ∪ areaTree parent c') w w'
  gone : ∀ q ∈ areaTree parent c, q ∉ areaTree parent c' → w'.disk.entry? q = none
  taken : ∀ area, c'.phase.area? = some area → c.phase.area? = some area ∨
    ∃ random, IsRandomPart random ∧ area = below parent random ∧
      w.disk.entry? (placeBelow parent random) = none

lemma MovesWithin.of_none (changes : Changes ∅ w w') (h : c.phase.area? = none)
    (h' : c'.phase.area? = none) : MovesWithin parent w c w' c' := by
  have hempty : areaTree parent c ∪ areaTree parent c' = ∅ := by
    rw [areaTree_of_none h, areaTree_of_none h', Set.union_empty]
  refine ⟨hempty ▸ changes, fun q hq => ?_, fun area harea => ?_⟩
  · rw [areaTree_of_none h] at hq
    exact absurd hq (Set.notMem_empty q)
  · rw [h'] at harea
    cases harea

/-- An area that has just been made is there, and empty. -/
lemma hosts_made (orderly : w.IsOrderly) (lettered : IsRandomPart random)
    (admits : Admits w.disk parent random) (drawn : Nat) (line : LogLine) :
    let made := ((drawnTo w drawn).withDisk
      (w.disk.add (placeBelow parent random) .directory Mode.secluded)).report line
    Changes (placeBelow parent random).tree w made ∧ Hosts made parent random ∧
      ∀ rel, contentOf made parent random rel = none := by
  intro made
  have hdrawn : Changes ∅ w (drawnTo w drawn) := orderly.noted rfl rfl rfl rfl
  obtain ⟨hchanges, hhosts, hempty⟩ := Admits.hosts hdrawn.orderly lettered admits
  have hnoted : Changes ∅ _ made := hchanges.orderly.noted rfl rfl rfl rfl
  exact ⟨⟨hnoted.orderly, hchanges.cwd, hchanges.disk⟩, hhosts.of_keeps (hhosts.keeps hnoted),
    hempty⟩

-- Left reducible, these are unfolded down to the bytes of their paths.
attribute [local irreducible] StagingArea.attempt StagingArea.writeEntry StagingArea.close

/-- No token has been fired in an orderly world. -/
lemma isCancelled_eq_false (orderly : w.IsOrderly) (options : CompileOptions) :
    isCancelled w options = false := by
  have hwithin : ∀ generations id, w.tokens.isFiredWithin generations id = false := by
    intro generations
    induction generations with
    | zero => exact fun _ => rfl
    | succ generations ih =>
      intro id
      unfold Tokens.isFiredWithin
      cases hstate : w.tokens.states[id]? with
      | none => rfl
      | some state =>
        simp only [orderly.tokens state (List.mem_of_getElem? hstate), Bool.false_or]
        cases state.parent with
        | none => rfl
        | some parent => exact ih parent
  unfold isCancelled
  cases options.token with
  | none => rfl
  | some token => exact hwithin _ token

/-- The first move looks for the place to stage in, and changes nothing. -/
lemma move_of_ready (orderly : w.IsOrderly) (h : c.phase = .ready) (move : Move tc w c w' c') :
    Changes ∅ w w' ∧
      ((∃ p, parentOf w.disk w.cwd c.settings.stagingRoot = .ok p ∧
          c'.phase = .naming p maxTries) ∨
        ∃ failure, parentOf w.disk w.cwd c.settings.stagingRoot = .error failure ∧
          c'.phase = .finished (.error failure)) := by
  have hlive := isCancelled_eq_false orderly c.options
  have hopened : Changes ∅ w (opened w c.tag) := orderly.noted rfl rfl rfl rfl
  cases hroot : parentOf w.disk w.cwd c.settings.stagingRoot with
  | error failure =>
    obtain ⟨rfl, rfl⟩ := move.unique (.rootless h hlive hroot)
    exact ⟨hopened, .inr ⟨failure, rfl, rfl⟩⟩
  | ok p =>
    obtain ⟨rfl, rfl⟩ := move.unique (.seek h hlive hroot)
    exact ⟨hopened, .inl ⟨p, rfl, rfl⟩⟩

/-- What trying a name can lead to. -/
inductive NamesOne (parent : Place) (w : World) (c : Compilation σ) (w' : World)
    (c' : Compilation σ) : Prop
  /-- There was nothing left to try. -/
  | exhausted (h : c.phase = .naming parent 0) (failure : Failure)
      (h' : c'.phase = .finished (.error failure)) (changes : Changes ∅ w w')
  /-- The name is taken. -/
  | skipped {tries : Nat} (h : c.phase = .naming parent (tries + 1))
      (h' : c'.phase = .naming parent tries) (changes : Changes ∅ w w')
  /-- No area can be made. -/
  | refused {fault : Fault}
      (failed : attempt w.disk w.cwd parent (w.names w.drawn) = .failed fault)
      (h' : c'.phase = .finished (.error (.staging c.settings.stagingRoot fault)))
      (changes : Changes ∅ w w')
  /-- An area is made. -/
  | made (admits : Admits w.disk parent (w.names w.drawn))
      (h' : c'.phase = .staged (below parent (w.names w.drawn)))
      (changes : Changes (placeBelow parent (w.names w.drawn)).tree w w')
      (hosts : Hosts w' parent (w.names w.drawn))
      (empty : ∀ rel, contentOf w' parent (w.names w.drawn) rel = none)

/-- A move that tries a name does so in one of these ways. -/
lemma namesOne_of_move (orderly : w.IsOrderly) {root : Path}
    (hroot : parentOf w.disk w.cwd root = .ok parent) {tries : Nat}
    (h : c.phase = .naming parent tries) (move : Move tc w c w' c') :
    NamesOne parent w c w' c' := by
  cases tries with
  | zero =>
    obtain ⟨rfl, rfl⟩ := move.unique (.exhaust h)
    exact .exhausted h _ rfl (orderly.noted rfl rfl rfl rfl)
  | succ tries =>
    have lettered := orderly.names w.drawn
    cases hattempt : attempt w.disk w.cwd parent (w.names w.drawn) with
    | taken =>
      obtain ⟨rfl, rfl⟩ := move.unique (.skip h hattempt)
      exact .skipped h rfl (orderly.noted rfl rfl rfl rfl)
    | failed fault =>
      obtain ⟨rfl, rfl⟩ := move.unique (.refuse h hattempt)
      exact .refused hattempt rfl (orderly.noted rfl rfl rfl rfl)
    | made area disk =>
      obtain ⟨node, hnode, hreal⟩ := exists_node_of_parentOf orderly.tree orderly.standing hroot
      have admits := admits_of_made lettered orderly.tree hnode hreal hattempt
      obtain ⟨rfl, rfl⟩ := move.unique (.make h (admits.attempt_eq orderly.tree lettered))
      obtain ⟨hchanges, hhosts, hempty⟩ := hosts_made orderly lettered admits _ _
      exact .made admits rfl hchanges hhosts hempty

/-- A compilation that makes a move stands where it may, and has changed nothing but what it owns. -/
lemma Stands.move (stands : Stands like parent w₀ w c) (orderly : w.IsOrderly)
    (roots : parentOf w.disk w.cwd c.settings.stagingRoot =
      parentOf w₀.disk w₀.cwd c.settings.stagingRoot)
    (place : ∀ p, parentOf w₀.disk w₀.cwd c.settings.stagingRoot = .ok p → p = parent)
    (fresh : ∀ random, w.disk.entry? (placeBelow parent random) = none →
      w₀.disk.entry? (placeBelow parent random) = none)
    (confined : IsConfinedBy tc c.settings c.source c.tag parent like) (move : Move tc w c w' c')
    (calm : IsCalm c') : Stands like parent w₀ w' c' ∧ MovesWithin parent w c w' c' := by
  have hcall := move.sameCall
  cases stands with
  | ready h =>
    have harea : c.phase.area? = none := by rw [h]; rfl
    obtain ⟨hchanges, ⟨p, hp, h'⟩ | ⟨failure, -, h'⟩⟩ := move_of_ready orderly h move
    · rw [roots] at hp
      obtain rfl := place p hp
      rw [← hcall.settings] at hp
      exact ⟨.naming h' hp, .of_none hchanges harea (by rw [h']; rfl)⟩
    · exact ⟨.finished h', .of_none hchanges harea (by rw [h']; rfl)⟩
  | naming h root =>
    have harea : c.phase.area? = none := by rw [h]; rfl
    have root' : parentOf w₀.disk w₀.cwd c'.settings.stagingRoot = .ok parent := by
      rw [hcall.settings]
      exact root
    cases namesOne_of_move orderly (roots.trans root) h move with
    | exhausted _ _ h' changes =>
      exact ⟨.finished h', .of_none changes harea (by rw [h']; rfl)⟩
    | skipped _ h' changes => exact ⟨.naming h' root', .of_none changes harea (by rw [h']; rfl)⟩
    | refused _ h' changes => exact ⟨.finished h', .of_none changes harea (by rw [h']; rfl)⟩
    | made admits h' changes hosts empty =>
      have harea' : c'.phase.area? = some (below parent (w.names w.drawn)) := by rw [h']; rfl
      refine ⟨.holding root' (fresh _ admits.free) ⟨hosts, hosts, .refl c', ?_⟩, ⟨?_, fun q hq => ?_,
        fun area ha => .inr ⟨_, hosts.lettered, ?_, admits.free⟩⟩⟩
      · rw [h']
        exact .staged empty empty
      · rw [areaTree_of_none harea, areaTree_of_some hosts.lettered harea', Set.empty_union]
        exact changes
      · rw [areaTree_of_none harea] at hq
        exact absurd hq (Set.notMem_empty q)
      · rw [harea', Option.some.injEq] at ha
        exact ha.symm
  | @holding random root free paired =>
    have harea := paired.phases.area?_eq
    have htree := areaTree_of_some paired.hosts.lettered harea
    obtain ⟨w₁, c₁, hmove, halike⟩ := paired.moves confined move calm
    obtain ⟨rfl, rfl⟩ := move.unique hmove
    cases halike with
    | on keeps next =>
      have harea' := next.phases.area?_eq
      have htree' := areaTree_of_some next.hosts.lettered harea'
      rw [← hcall.settings] at root
      refine ⟨.holding root free next, ⟨?_, fun q hq hq' => ?_, fun area ha => .inl ?_⟩⟩
      · rw [htree, htree', Set.union_self]
        exact keeps.toChanges
      · rw [htree, ← htree'] at hq
        exact absurd hq hq'
      · rw [harea, ← harea']
        exact ha
    | off h' _ _ changes gone =>
      refine ⟨.finished h', ⟨?_, fun q hq _ => gone q (htree ▸ hq), fun area ha => ?_⟩⟩
      · have hnone : areaTree parent c' = ∅ := areaTree_of_none (by rw [h']; rfl)
        rw [htree, hnone, Set.union_empty]
        exact changes
      · rw [h'] at ha
        cases ha
  | finished h =>
    have hstuck : step tc w c = none := step_eq_none_of_finished h
    rw [move.step_eq] at hstuck
    cases hstuck

/-- Compilations without a common area have disjoint trees. -/
lemma disjoint_areaTree {τ : Type} {d : Compilation τ}
    (h : ∀ area, c.phase.area? = some area → d.phase.area? ≠ some area) :
    Disjoint (areaTree parent c) (areaTree parent d) := by
  rw [Set.disjoint_left]
  rintro q ⟨random, -, harea, hq⟩ ⟨random', -, harea', hq'⟩
  have hne : random ≠ random' := by
    rintro rfl
    exact h _ harea harea'
  exact Set.disjoint_left.mp (disjoint_placeBelow hne) hq hq'

end Own

/-! ### What all of them own -/

section Owned

variable {ι : Type*} {σ : ι → Type} {tcs : ∀ i, Toolchain (σ i)} {likes : ∀ i, Likeness (σ i)}
  {root : Path} {parent : Place} {w₀ w w' : World} {cs₀ cs : ∀ i, Compilation (σ i)}
  {s t : Company σ}

/-- Every compilation stands where it may, no two have the same area, and outside of their trees
the disk is as it was at the start. -/
structure Owned (likes : ∀ i, Likeness (σ i)) (parent : Place) (w₀ : World)
    (cs₀ : ∀ i, Compilation (σ i)) (s : Company σ) : Prop where
  orderly : s.1.IsOrderly
  cwd : s.1.cwd = w₀.cwd
  call : ∀ i, SameCall (cs₀ i) (s.2 i)
  stands : ∀ i, Stands (likes i) parent w₀ s.1 (s.2 i)
  distinct : ∀ i j, i ≠ j → ∀ area, (s.2 i).phase.area? = some area →
    (s.2 j).phase.area? ≠ some area
  outside : ∀ q, (∀ i, q ∉ areaTree parent (s.2 i)) → s.1.disk.entry? q = w₀.disk.entry? q

/-- In the beginning nobody owns anything. -/
lemma Owned.start (orderly : w₀.IsOrderly) (ready : ∀ i, (cs₀ i).phase = .ready) :
    Owned likes parent w₀ cs₀ (w₀, cs₀) where
  orderly := orderly
  cwd := rfl
  call i := .refl (cs₀ i)
  stands i := .ready (ready i)
  distinct i _ _ area harea := by
    rw [ready i] at harea
    cases harea
  outside _ _ := rfl

/-- A tree that is owned was free at the start. -/
lemma Owned.free (owned : Owned likes parent w₀ cs₀ s) (orderly : w₀.IsOrderly) {i : ι} {q : Place}
    (hq : q ∈ areaTree parent (s.2 i)) : w₀.disk.entry? q = none := by
  obtain ⟨random, lettered, harea, rel, rfl⟩ := hq
  obtain ⟨random', heq, -, hfree, paired⟩ := (owned.stands i).holds harea
  rw [below_inj lettered paired.hosts.lettered heq]
  exact orderly.tree.entry?_below hfree rel

/-- The root of a tree that is owned is there. -/
lemma Owned.hosts (owned : Owned likes parent w₀ cs₀ s) {i : ι} {random : String}
    (lettered : IsRandomPart random) (h : (s.2 i).phase.area? = some (below parent random)) :
    Hosts s.1 parent random := by
  obtain ⟨random', heq, -, -, paired⟩ := (owned.stands i).holds h
  rw [below_inj lettered paired.hosts.lettered heq]
  exact paired.hosts

/-- A place for an area that is free now was free at the start. -/
lemma Owned.fresh (owned : Owned likes parent w₀ cs₀ s) {random : String}
    (h : s.1.disk.entry? (placeBelow parent random) = none) :
    w₀.disk.entry? (placeBelow parent random) = none := by
  rw [← owned.outside, h]
  rintro i ⟨random', lettered, harea, hprefix⟩
  have heq : placeBelow parent random' = placeBelow parent random :=
    (Place.mem_tree.mp hprefix).eq_of_length (by simp [placeBelow])
  obtain ⟨e, he, -⟩ := (owned.hosts lettered harea).made
  rw [heq, h] at he
  cases he

/-- What was there at the start is there. -/
lemma Owned.node?_mono (owned : Owned likes parent w₀ cs₀ s) (orderly : w₀.IsOrderly) {q : Place}
    {node : Node} (h : w₀.disk.node? q = some node) : s.1.disk.node? q = some node := by
  rw [Disk.node?, owned.outside]
  · exact h
  · intro i hq
    rw [Disk.node?, owned.free orderly hq] at h
    cases h

/-- All calls stage in the place that the root meant at the start. -/
lemma Owned.parentOf_eq (owned : Owned likes parent w₀ cs₀ s) (orderly : w₀.IsOrderly)
    (roots : ∀ i, (cs₀ i).settings.stagingRoot = root) :
    parentOf s.1.disk s.1.cwd root = parentOf w₀.disk w₀.cwd root := by
  rw [owned.cwd]
  cases hroot : parentOf w₀.disk w₀.cwd root with
  | ok p =>
    rw [parentOf_eq_ok_iff] at hroot ⊢
    exact Disk.canonical_mono (fun _ _ h => owned.node?_mono orderly h) hroot
  | error failure =>
    -- Then there are no areas, and nothing has changed at all.
    rw [← hroot]
    refine parentOf_congr (fun q => ?_) _ _
    rw [Disk.node?, Disk.node?, owned.outside]
    rintro i ⟨random, -, harea, -⟩
    obtain ⟨-, -, hok, -⟩ := (owned.stands i).holds harea
    rw [(owned.call i).settings, roots, hroot] at hok
    cases hok

/-- No area is taken that another compilation has. -/
lemma Owned.apart (owned : Owned likes parent w₀ cs₀ (w, cs)) {i j : ι} (hij : j ≠ i)
    {c' : Compilation (σ i)} (within : MovesWithin parent w (cs i) w' c') (area : StagingArea)
    (h : (cs j).phase.area? = some area) : c'.phase.area? ≠ some area := by
  intro harea
  rcases within.taken area harea with hbefore | ⟨random, lettered, rfl, hfree⟩
  · exact owned.distinct j i hij area h hbefore
  · obtain ⟨e, he, -⟩ := (owned.hosts lettered h).made
    rw [hfree] at he
    cases he

/-- A move leaves the trees of all others alone. -/
lemma Owned.disjoint (owned : Owned likes parent w₀ cs₀ (w, cs)) {i j : ι} (hij : j ≠ i)
    {c' : Compilation (σ i)} (within : MovesWithin parent w (cs i) w' c') :
    Disjoint (areaTree parent (cs j)) (areaTree parent (cs i) ∪ areaTree parent c') :=
  Set.disjoint_union_right.mpr ⟨disjoint_areaTree (owned.distinct j i hij),
    disjoint_areaTree (owned.apart hij within)⟩

/-- Calls have one staging root, in an orderly world, and all their toolchains are confined. -/
structure SharesRoot (tcs : ∀ i, Toolchain (σ i)) (likes : ∀ i, Likeness (σ i)) (root : Path)
    (parent : Place) (w₀ : World) (cs₀ : ∀ i, Compilation (σ i)) : Prop where
  orderly : w₀.IsOrderly
  roots : ∀ i, (cs₀ i).settings.stagingRoot = root
  place : ∀ p, parentOf w₀.disk w₀.cwd root = .ok p → p = parent
  confined : ∀ i, IsConfinedBy (tcs i) (cs₀ i).settings (cs₀ i).source (cs₀ i).tag parent (likes i)

lemma SharesRoot.confined_of_call (shares : SharesRoot tcs likes root parent w₀ cs₀) {i : ι}
    {c : Compilation (σ i)} (call : SameCall (cs₀ i) c) :
    IsConfinedBy (tcs i) c.settings c.source c.tag parent (likes i) := by
  rw [call.settings, call.source, call.tag]
  exact shares.confined i

/-- What a move does in company. -/
lemma Owned.within (owned : Owned likes parent w₀ cs₀ (w, cs))
    (shares : SharesRoot tcs likes root parent w₀ cs₀) {i : ι} {c' : Compilation (σ i)}
    (move : Move (tcs i) w (cs i) w' c') (calm : IsCalm c') :
    Stands (likes i) parent w₀ w' c' ∧ MovesWithin parent w (cs i) w' c' := by
  have hroot : (cs i).settings.stagingRoot = root := by
    rw [(owned.call i).settings, shares.roots]
  refine (owned.stands i).move owned.orderly ?_ ?_ (fun _ h => owned.fresh h)
    (shares.confined_of_call (owned.call i)) move calm
  · rw [hroot]
    exact owned.parentOf_eq shares.orderly shares.roots
  · rw [hroot]
    exact shares.place

/-- What is owned stays apart while time passes. -/
lemma Owned.tick (owned : Owned likes parent w₀ cs₀ (w, cs)) (span : Nat) :
    Owned likes parent w₀ cs₀ ({ w with toMachine := w.toMachine.tick span }, cs) := by
  have htick := owned.orderly.tick span
  exact ⟨htick.orderly, owned.cwd, owned.call,
    fun i => (owned.stands i).of_changes htick (Set.disjoint_empty _), owned.distinct, owned.outside⟩

variable [DecidableEq ι]

/-- A move keeps what is owned apart. -/
lemma Owned.move (owned : Owned likes parent w₀ cs₀ (w, cs)) (orderly : w₀.IsOrderly) {i : ι}
    {c' : Compilation (σ i)} (stands : Stands (likes i) parent w₀ w' c')
    (within : MovesWithin parent w (cs i) w' c') (call : SameCall (cs i) c') :
    Owned likes parent w₀ cs₀ (w', Function.update cs i c') where
  orderly := within.changes.orderly
  cwd := within.changes.cwd.trans owned.cwd
  call j := by
    change SameCall (cs₀ j) (Function.update cs i c' j)
    by_cases hij : j = i
    · subst hij
      rw [Function.update_self]
      exact (owned.call j).trans call
    · rw [Function.update_of_ne hij]
      exact owned.call j
  stands j := by
    change Stands (likes j) parent w₀ w' (Function.update cs i c' j)
    by_cases hij : j = i
    · subst hij
      rw [Function.update_self]
      exact stands
    · rw [Function.update_of_ne hij]
      exact (owned.stands j).of_changes within.changes (owned.disjoint hij within)
  distinct j k hjk area harea harea' := by
    change (Function.update cs i c' j).phase.area? = some area at harea
    change (Function.update cs i c' k).phase.area? = some area at harea'
    by_cases hj : j = i
    · subst hj
      rw [Function.update_self] at harea
      rw [Function.update_of_ne hjk.symm] at harea'
      exact owned.apart hjk.symm within area harea' harea
    · rw [Function.update_of_ne hj] at harea
      by_cases hk : k = i
      · subst hk
        rw [Function.update_self] at harea'
        exact owned.apart hjk within area harea harea'
      · rw [Function.update_of_ne hk] at harea'
        exact owned.distinct j k hjk area harea harea'
  outside q hq := by
    change ∀ j, q ∉ areaTree parent (Function.update cs i c' j) at hq
    have hafter : q ∉ areaTree parent c' := by
      have hi := hq i
      rwa [Function.update_self] at hi
    by_cases hbefore : q ∈ areaTree parent (cs i)
    · rw [within.gone q hbefore hafter]
      exact (owned.free orderly hbefore).symm
    · rw [within.changes.disk.outside q (by simp [hbefore, hafter])]
      refine owned.outside q fun j hj => ?_
      by_cases hij : j = i
      · subst hij
        exact hbefore hj
      · have hothers := hq j
        rw [Function.update_of_ne hij] at hothers
        exact hothers hj

end Owned

end SnippetForge.Compilation
