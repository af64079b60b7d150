import SnippetForge.Proofs.Compilation.Precedence
import SnippetForge.Proofs.Toolchain.Confinement

/-!
# Two compilations side by side

Two compilations that serve the same call in two areas of one directory are *paired* if they are in
the same phase and nothing that decides what they do next differs. The worlds they are in may have
nothing else in common. If the toolchain is confined, a move of one of them is always matched by a
move of the other, after which they are paired again or have finished with the same result, but for
the name of the area.

A compilation paired with itself shows in the same way what its moves change on the disk.
-/

namespace SnippetForge

/-- The area of a compilation, from when it is made until it is removed. -/
def Phase.area? {σ : Type} : Phase σ → Option StagingArea
  | .staged area => some area
  | .bundling area _ _ _ _ => some area
  | .stopping area _ _ _ _ => some area
  | .reading area _ _ => some area
  | .collecting area _ _ _ => some area
  | .closing area _ => some area
  | _ => none

/-- Whether names are left to try in a phase, and its time is not up. -/
def Phase.isCalm {σ : Type} : Phase σ → Bool
  | .naming _ 0 => false
  | .stopping _ _ _ _ _ => false
  | _ => true

namespace Compilation

open StagingArea Toolchain
open World (IsOrderly Changes)

variable {σ : Type} {tc : Toolchain σ} {like : Likeness σ} {parent : Place}
  {random random' : String} {w w' v : World} {c c' d : Compilation σ}

/-! ### Pairs -/

/-- Two outcomes of runs are the same but for the area in a failure. -/
inductive OutcomesAlike (a b : Path) :
    Except Failure (String × Report) → Except Failure (String × Report) → Prop
  | failed {f g : Failure} (alike : Failure.SameBut a b f g) : OutcomesAlike a b (.error f) (.error g)
  | read (outcome : String × Report) : OutcomesAlike a b (.ok outcome) (.ok outcome)

/-- Two results are the same but for the area in a failure and the time that has been measured. -/
inductive ResultsAlike (a b : Path) : Except Failure Bundle → Except Failure Bundle → Prop
  | failed {f g : Failure} (alike : Failure.SameBut a b f g) : ResultsAlike a b (.error f) (.error g)
  | bundled (bundle : Bundle) (elapsed : Nat) :
      ResultsAlike a b (.ok bundle) (.ok { bundle with elapsed := elapsed })

/-- Two compilations with two areas are in the same phase, and what they do next is decided alike
by what is in their areas. -/
inductive PhasesAlike (like : Likeness σ) (settings : Settings) (tag : String) (parent : Place)
    (random random' : String) (content content' : Content) : Phase σ → Phase σ → Prop
  | staged (empty : ∀ rel, content rel = none) (empty' : ∀ rel, content' rel = none) :
      PhasesAlike like settings tag parent random random' content content'
        (.staged (below parent random)) (.staged (below parent random'))
  | bundling {token token' : TokenId} {deadline deadline' : Option Deadline} {s t : σ}
      (alike : like content s content' t) :
      PhasesAlike like settings tag parent random random' content content'
        (.bundling (below parent random) (requestOf settings tag (below parent random)) token
          deadline s)
        (.bundling (below parent random') (requestOf settings tag (below parent random')) token'
          deadline' t)
  | reading {report : Report}
      (alike : WalksAlike content content' [] [outputName, bundleName]) :
      PhasesAlike like settings tag parent random random' content content'
        (.reading (below parent random) (requestOf settings tag (below parent random)) report)
        (.reading (below parent random') (requestOf settings tag (below parent random')) report)
  | collecting {request request' : Request} {report : Report} {node node' : Nat} :
      PhasesAlike like settings tag parent random random' content content'
        (.collecting (below parent random) request report (.named node))
        (.collecting (below parent random') request' report (.named node'))
  | closing {outcome outcome' : Except Failure (String × Report)}
      (alike : OutcomesAlike (below parent random).path (below parent random').path outcome
        outcome') :
      PhasesAlike like settings tag parent random random' content content'
        (.closing (below parent random) outcome) (.closing (below parent random') outcome')

lemma PhasesAlike.area?_eq {settings : Settings} {tag : String} {content content' : Content}
    {p q : Phase σ}
    (h : PhasesAlike like settings tag parent random random' content content' p q) :
    p.area? = some (below parent random) := by
  cases h <;> rfl

/-- Two compilations of one call have areas of one directory, and go on alike. -/
structure Paired (like : Likeness σ) (parent : Place) (random random' : String) (w : World)
    (c : Compilation σ) (v : World) (d : Compilation σ) : Prop where
  hosts : Hosts w parent random
  hosts' : Hosts v parent random'
  call : SameCall c d
  phases : PhasesAlike like c.settings c.tag parent random random' (contentOf w parent random)
    (contentOf v parent random') c.phase d.phase

/-- A compilation has not run out of names to try, and its time is not up. -/
def IsCalm (c : Compilation σ) : Prop :=
  c.phase.isCalm = true

instance (c : Compilation σ) : Decidable (IsCalm c) :=
  inferInstanceAs (Decidable (_ = _))

lemma IsCalm.named (h : IsCalm c) (place : Place) : c.phase ≠ .naming place 0 := by
  intro hphase
  rw [IsCalm, hphase] at h
  cases h

lemma IsCalm.timely (h : IsCalm c) (area : StagingArea) (request : Request) (token : TokenId)
    (limit : Duration) (state : σ) : c.phase ≠ .stopping area request token limit state := by
  intro hphase
  rw [IsCalm, hphase] at h
  cases h

/-- What a move of one of two paired compilations and the move that matches it lead to. -/
inductive MovesAlike (like : Likeness σ) (parent : Place) (random random' : String) (w : World) :
    World × Compilation σ → World × Compilation σ → Prop
  | on {w' v' : World} {c' d' : Compilation σ} (keeps : Keeps parent random w w')
      (next : Paired like parent random random' w' c' v' d') :
      MovesAlike like parent random random' w (w', c') (v', d')
  | off {w' v' : World} {c' d' : Compilation σ} {result result' : Except Failure Bundle}
      (h : c'.phase = .finished result) (h' : d'.phase = .finished result')
      (alike : ResultsAlike (below parent random).path (below parent random').path result result')
      (changes : Changes (placeBelow parent random).tree w w')
      (gone : ∀ q ∈ (placeBelow parent random).tree, w'.disk.entry? q = none) :
      MovesAlike like parent random random' w (w', c') (v', d')

/-! ### Single moves -/

/-- A compilation makes one move at most. -/
lemma Move.unique {w₁ w₂ : World} {c₁ c₂ : Compilation σ} (h₁ : Move tc w c w₁ c₁)
    (h₂ : Move tc w c w₂ c₂) : w₁ = w₂ ∧ c₁ = c₂ :=
  Prod.mk.inj (Option.some.inj (h₁.step_eq.symm.trans h₂.step_eq))

/-- Where the entry is accepted, the toolchain finds it in the area, and nothing else. -/
lemma keeps_invocation (hosts : Hosts w parent random) {e : EntryExtension}
    (hname : IsProper e.fileName) (empty : ∀ rel, contentOf w parent random rel = none)
    (source : String) (request : Request) (caller : Option TokenId) :
    let started := (invocation w (w.disk.add (placeBelow parent random ++ [e.fileName])
      (.file source.toUTF8) Mode.file) request caller).1
    Keeps parent random w started ∧ HoldsEntry e source (contentOf started parent random) := by
  have hfree : w.disk.entry? (placeBelow parent random ++ ([] ++ [e.fileName])) = none :=
    (Disk.contentBelow_of_ne_nil (by simp)).symm.trans (empty _)
  have habove : w.disk.node? (placeBelow parent random ++ []) = some .directory := by
    rw [List.append_nil]
    exact hosts.node?_eq
  obtain ⟨hkeeps, hcontent⟩ := hosts.keeps_add hfree habove hname (.file source.toUTF8) Mode.file
  intro started
  have htokens : ∀ state ∈ started.tokens.states, state.fired = false := by
    intro state hstate
    rcases List.mem_append.mp hstate with hstate | hstate
    · exact hosts.orderly.tokens state hstate
    · rw [List.mem_singleton.mp hstate]
  have hnoted := @IsOrderly.changes _ started hkeeps.orderly rfl rfl rfl htokens
    hkeeps.orderly.pipes
  refine ⟨hkeeps.trans ((hosts.of_keeps hkeeps).keeps hnoted), ⟨_, (hcontent _).trans (if_pos rfl),
    rfl, rfl⟩, fun rel hrel => ?_⟩
  exact (hcontent rel).trans ((if_neg hrel).trans (empty rel))

-- Left reducible, these are unfolded down to the bytes of their paths.
attribute [local irreducible] StagingArea.attempt StagingArea.writeEntry StagingArea.close

/-- Whether the entry can be written depends on its name and its length only, and the toolchain
starts alike on it. -/
lemma moves_of_staged (confined : IsConfinedBy tc c.settings c.source c.tag parent like)
    (hosts : Hosts w parent random) (hosts' : Hosts v parent random') (call : SameCall c d)
    (h : c.phase = .staged (below parent random)) (h' : d.phase = .staged (below parent random'))
    (empty : ∀ rel, contentOf w parent random rel = none)
    (empty' : ∀ rel, contentOf v parent random' rel = none) (move : Move tc w c w' c') :
    ∃ v' d', Move tc v d v' d' ∧ MovesAlike like parent random random' w (w', c') (v', d') := by
  obtain ⟨settings, source, tag, options, began, phase⟩ := c
  obtain ⟨settings', source', tag', options', began', phase'⟩ := d
  obtain ⟨rfl, rfl, rfl, rfl⟩ := call
  have hname := EntryExtension.isProper_fileName tag'
  have hnul := EntryExtension.hasNul_fileName tag'
  have hfree := (Disk.contentBelow_of_ne_nil (List.cons_ne_nil _ _)).symm.trans
    (empty [(EntryExtension.ofTag tag').fileName])
  have hfree' := (Disk.contentBelow_of_ne_nil (List.cons_ne_nil _ _)).symm.trans
    (empty' [(EntryExtension.ofTag tag').fileName])
  by_cases refused : IsRefused parent random (EntryExtension.ofTag tag').fileName
  · have refused' := (isRefused_iff hosts.lettered hosts'.lettered).mpr refused
    have hmove : Move tc w _ _ _ :=
      .unwritten h (hosts.writeEntry_of_isRefused hname hnul hfree refused source')
    have hmove' : Move tc v _ _ _ :=
      .unwritten h' (hosts'.writeEntry_of_isRefused hname hnul hfree' refused' source')
    obtain ⟨rfl, rfl⟩ := move.unique hmove
    have paths : Path.SameBut (below parent random).path (below parent random').path _ _ :=
      .inside [(EntryExtension.ofTag tag').fileName]
    exact ⟨_, _, hmove', .on (hosts.keeps (hosts.orderly.noted rfl rfl rfl rfl))
      ⟨hosts, hosts', ⟨rfl, rfl, rfl, rfl⟩, .closing (.failed (.staging paths (.same _)))⟩⟩
  · have accepted' : ¬IsRefused parent random' (EntryExtension.ofTag tag').fileName :=
      fun hr => refused ((isRefused_iff hosts.lettered hosts'.lettered).mp hr)
    have hmove : Move tc w _ _ _ :=
      .invoke h (hosts.writeEntry_of_not_isRefused hname hnul hfree refused source')
    have hmove' : Move tc v _ _ _ :=
      .invoke h' (hosts'.writeEntry_of_not_isRefused hname hnul hfree' accepted' source')
    obtain ⟨hkeeps, hentry⟩ := keeps_invocation hosts hname empty source'
      (requestOf settings' tag' (below parent random)) options'.token
    obtain ⟨hkeeps', hentry'⟩ := keeps_invocation hosts' hname empty' source'
      (requestOf settings' tag' (below parent random')) options'.token
    obtain ⟨w₁, v₁, s, t, hstart, hstart', hon, hon', halike⟩ := confined.start
      (hosts.of_keeps hkeeps) (hosts'.of_keeps hkeeps') hentry hentry' w.tokens.states.length
      v.tokens.states.length
    have hstarted : startOf tc settings' tag' options' (below parent random) w _ = (w₁, s) := hstart
    have hstarted' : startOf tc settings' tag' options' (below parent random') v _ = (v₁, t) :=
      hstart'
    rw [hstarted] at hmove
    rw [hstarted'] at hmove'
    obtain ⟨rfl, rfl⟩ := move.unique hmove
    have hall := hkeeps.trans hon
    exact ⟨_, _, hmove', .on hall ⟨hosts.of_keeps hall, hosts'.of_keeps (hkeeps'.trans hon'),
      ⟨rfl, rfl, rfl, rfl⟩, .bundling halike⟩⟩

/-- The toolchain goes on alike. -/
lemma moves_of_bundling (confined : IsConfinedBy tc c.settings c.source c.tag parent like)
    (hosts : Hosts w parent random) (hosts' : Hosts v parent random') (call : SameCall c d)
    {token token' : TokenId} {deadline deadline' : Option Deadline} {s t : σ}
    (h : c.phase = .bundling (below parent random)
      (requestOf c.settings c.tag (below parent random)) token deadline s)
    (h' : d.phase = .bundling (below parent random')
      (requestOf c.settings c.tag (below parent random')) token' deadline' t)
    (alike : like (contentOf w parent random) s (contentOf v parent random') t)
    (move : Move tc w c w' c') (calm : IsCalm c') :
    ∃ v' d', Move tc v d v' d' ∧ MovesAlike like parent random random' w (w', c') (v', d') := by
  obtain ⟨settings, source, tag, options, began, phase⟩ := c
  obtain ⟨settings', source', tag', options', began', phase'⟩ := d
  obtain ⟨rfl, rfl, rfl, rfl⟩ := call
  have hturns := confined.resume hosts hosts' alike token token'
  generalize hresumed : tc.resume w _ token s = turn at hturns
  generalize hresumed' : tc.resume v _ token' t = turn' at hturns
  cases hturns with
  | running keeps keeps' alike =>
    obtain ⟨rfl, rfl⟩ := move.unique (.work h hresumed)
    exact ⟨_, _, .work h' hresumed', .on keeps ⟨hosts.of_keeps keeps, hosts'.of_keeps keeps',
      ⟨rfl, rfl, rfl, rfl⟩, .bundling alike⟩⟩
  | waiting =>
    -- A toolchain that waits is only moved on when its time is up.
    have hwaits := congrArg Prod.snd hresumed
    cases hexpired : isExpired w deadline with
    | none =>
      have hstuck := step_bundling_waiting h hwaits hexpired
      rw [move.step_eq] at hstuck
      cases hstuck
    | some limit =>
      obtain ⟨rfl, rfl⟩ := move.unique (.expire h hwaits hexpired)
      exact absurd rfl (calm.timely _ _ _ _ _)
  | failed keeps keeps' alike =>
    obtain ⟨rfl, rfl⟩ := move.unique (.conclude h hresumed)
    exact ⟨_, _, .conclude h' hresumed', .on keeps ⟨hosts.of_keeps keeps, hosts'.of_keeps keeps',
      ⟨rfl, rfl, rfl, rfl⟩, .closing (.failed alike)⟩⟩
  | @reported w₁ v₁ report keeps keeps' alike =>
    obtain ⟨rfl, rfl⟩ := move.unique (.conclude h hresumed)
    have hnoted : Changes ∅ w₁ (reported tc w₁ report) :=
      keeps.orderly.noted rfl rfl rfl rfl
    have hnoted' : Changes ∅ v₁ (reported tc v₁ report) :=
      keeps'.orderly.noted rfl rfl rfl rfl
    have hall := keeps.trans ((hosts.of_keeps keeps).keeps hnoted)
    have hall' := keeps'.trans ((hosts'.of_keeps keeps').keeps hnoted')
    exact ⟨_, _, .conclude h' hresumed', .on hall ⟨hosts.of_keeps hall, hosts'.of_keeps hall',
      ⟨rfl, rfl, rfl, rfl⟩, .reading alike⟩⟩

/-- Listening to a named pipe connects nothing. -/
lemma changes_listen (orderly : w.IsOrderly) (node : Nat) (reads : Bool) :
    Changes ∅ w (w.withMachine (w.toMachine.readOutside (.named node) reads)) := by
  have hdisk : (w.toMachine.readOutside (.named node) reads).disk = w.disk := by
    unfold Machine.readOutside Machine.changePipe
    split <;> rfl
  refine orderly.changes hdisk ?_ rfl orderly.tokens fun pipe hpipe id hid => ?_
  · refine Disk.follow_eq orderly.tree ?_ orderly.standing fun q _ => ?_
    · rw [hdisk]
      exact orderly.tree
    · rw [hdisk]
  · change pipe ∈ (w.toMachine.readOutside (.named node) reads).pipes at hpipe
    unfold Machine.readOutside Machine.changePipe at hpipe
    split at hpipe
    · obtain ⟨before, hbefore, rfl⟩ := List.mem_map.mp hpipe
      by_cases hnode : before.id = .named node
      · rw [if_pos hnode] at hid ⊢
        exact orderly.pipes before hbefore id hid
      · rw [if_neg hnode] at hid ⊢
        exact orderly.pipes before hbefore id hid
    · rcases List.mem_append.mp hpipe with hpipe | hpipe
      · exact orderly.pipes pipe hpipe id hid
      · rw [List.mem_singleton.mp hpipe]

/-- The bundle is read alike. -/
lemma moves_of_reading (hosts : Hosts w parent random) (hosts' : Hosts v parent random')
    (call : SameCall c d) {report : Report}
    (h : c.phase = .reading (below parent random)
      (requestOf c.settings c.tag (below parent random)) report)
    (h' : d.phase = .reading (below parent random')
      (requestOf c.settings c.tag (below parent random')) report)
    (alike : WalksAlike (contentOf w parent random) (contentOf v parent random') []
      [outputName, bundleName]) (move : Move tc w c w' c') :
    ∃ v' d', Move tc v d v' d' ∧ MovesAlike like parent random random' w (w', c') (v', d') := by
  have hproper : ∀ n ∈ [outputName, bundleName], IsProper n := by decide
  obtain ⟨htext, hpipes⟩ := hosts.reads_alike hosts' (by simp) hproper (by decide) alike
  have hpath : ∀ area : StagingArea, area.path.descend [outputName, bundleName] =
      (requestOf c.settings c.tag area).bundlePath := by
    intro area
    rw [bundlePath_requestOf]
    rfl
  rw [hpath, hpath] at htext hpipes
  cases hpipe : w.toMachine.namedPipe? w.cwd
      (requestOf c.settings c.tag (below parent random)).bundlePath with
  | none =>
    rw [hpipe, Option.isSome_none, Option.isSome_eq_false_iff, Option.isNone_iff_eq_none] at hpipes
    obtain ⟨rfl, rfl⟩ := move.unique (.read h hpipe)
    refine ⟨_, _, .read h' hpipes, .on (hosts.keeps (hosts.orderly.noted rfl rfl rfl rfl))
      ⟨hosts, hosts', ⟨call.settings, call.source, call.tag, call.options⟩, .closing ?_⟩⟩
    rw [htext]
    cases w'.disk.readText w'.cwd (requestOf c.settings c.tag (below parent random)).bundlePath with
    | ok code => exact .read _
    | error fault =>
      refine .failed (.outputRead ?_ (.same fault))
      rw [← hpath, ← hpath]
      exact .inside [outputName, bundleName]
  | some pipe =>
    rw [hpipe, Option.isSome_some] at hpipes
    obtain ⟨pipe', hpipe'⟩ := Option.isSome_iff_exists.mp hpipes
    have hnamed : ∀ {m : Machine} {cwd p pipe}, m.namedPipe? cwd p = some pipe →
        ∃ node, pipe = .named node := by
      intro m cwd p pipe hm
      unfold Machine.namedPipe? at hm
      split at hm
      · split at hm
        · exact ⟨_, (Option.some.inj hm).symm⟩
        · cases hm
      · cases hm
    obtain ⟨node, rfl⟩ := hnamed hpipe
    obtain ⟨node', rfl⟩ := hnamed hpipe'
    obtain ⟨rfl, rfl⟩ := move.unique (.listen h hpipe)
    have hkeeps := hosts.keeps (changes_listen hosts.orderly node true)
    have hkeeps' := hosts'.keeps (changes_listen hosts'.orderly node' true)
    exact ⟨_, _, .listen h' hpipe', .on hkeeps ⟨hosts.of_keeps hkeeps, hosts'.of_keeps hkeeps',
      ⟨call.settings, call.source, call.tag, call.options⟩, .collecting⟩⟩

/-- No end comes of listening to a named pipe that no one writes to. -/
lemma not_move_of_collecting (orderly : w.IsOrderly) {area : StagingArea} {request : Request}
    {report : Report} {node : Nat} (h : c.phase = .collecting area request report (.named node)) :
    ¬Move tc w c w' c' := by
  intro move
  have hbusy : w.toMachine.isDrained (.named node) = false := by
    have hconnected : (w.toMachine.pipe? (.named node)).any (·.connected) = false := by
      cases hpipe : w.toMachine.pipe? (.named node) with
      | none => rfl
      | some pipe =>
        unfold Machine.pipe? at hpipe
        have hnode := List.find?_some hpipe
        exact orderly.pipes pipe (List.mem_of_find?_eq_some hpipe) node (by simpa using hnode)
    rw [Machine.isDrained, hconnected, Bool.false_and]
  have hstuck : step tc w c = none := step_collecting_busy h hbusy
  rw [move.step_eq] at hstuck
  cases hstuck

/-- The area is removed in any case, and the results are alike. -/
lemma moves_of_closing (hosts : Hosts w parent random) (hosts' : Hosts v parent random')
    (call : SameCall c d) {outcome outcome' : Except Failure (String × Report)}
    (h : c.phase = .closing (below parent random) outcome)
    (h' : d.phase = .closing (below parent random') outcome')
    (alike : OutcomesAlike (below parent random).path (below parent random').path outcome outcome')
    (move : Move tc w c w' c') :
    ∃ v' d', Move tc v d v' d' ∧ MovesAlike like parent random random' w (w', c') (v', d') := by
  obtain ⟨rfl, rfl⟩ := move.unique (.remove h hosts.close_eq)
  obtain ⟨hchanges, hgone⟩ := hosts.changes_close
  have hnoted : Changes ∅ (w.withDisk (w.disk.cut (placeBelow parent random)))
      ((w.withDisk (w.disk.cut (placeBelow parent random))).report
        (below parent random).removedLine) :=
    hchanges.orderly.noted rfl rfl rfl rfl
  refine ⟨_, _, .remove h' hosts'.close_eq,
    .off rfl rfl ?_ ⟨hnoted.orderly, hchanges.cwd, hchanges.disk⟩ hgone⟩
  cases alike with
  | failed alike => exact .failed alike
  | read outcome =>
    have hextension : d.extension = c.extension := congrArg EntryExtension.ofTag call.tag
    change ResultsAlike _ _ (.ok (bundleOf w c outcome)) (.ok (bundleOf v d outcome))
    unfold bundleOf
    rw [hextension]
    exact .bundled ⟨outcome.1, c.extension, outcome.2.diagnostics, _⟩ _

/-! ### Pairs move alike -/

/-- A move of one of two paired compilations is matched by a move of the other. -/
lemma Paired.moves (paired : Paired like parent random random' w c v d)
    (confined : IsConfinedBy tc c.settings c.source c.tag parent like) (move : Move tc w c w' c')
    (calm : IsCalm c') :
    ∃ v' d', Move tc v d v' d' ∧ MovesAlike like parent random random' w (w', c') (v', d') := by
  obtain ⟨hosts, hosts', call, phases⟩ := paired
  generalize hphase : c.phase = phase at phases
  generalize hphase' : d.phase = phase' at phases
  cases phases with
  | staged empty empty' =>
    exact moves_of_staged confined hosts hosts' call hphase hphase' empty empty' move
  | bundling alike =>
    exact moves_of_bundling confined hosts hosts' call hphase hphase' alike move calm
  | reading alike => exact moves_of_reading hosts hosts' call hphase hphase' alike move
  | collecting => exact absurd move (not_move_of_collecting hosts.orderly hphase)
  | closing alike => exact moves_of_closing hosts hosts' call hphase hphase' alike move

end Compilation

end SnippetForge
