import SnippetForge.Proofs.Compilation.Precedence
import SnippetForge.Proofs.Staging.Areas
import SnippetForge.Toolchain.Script

/-!
# Staging leaves nothing behind

However a compilation ends, and whatever its toolchain has done to the files meanwhile, the
directory it staged in is gone afterwards. This file follows the disk through a whole run. Before
the toolchain starts, the disk differs only at the place of the area. Then the toolchain and the
processes that it leaves do what they do. At the end one tree is cut out, the one that the path of
the area leads to at that moment; a link there is cut out as a link, so nothing that lies elsewhere
is touched.
-/

namespace SnippetForge.Compilation

variable {σ : Type} {tc : Toolchain σ}

/-! ### Until the area is there -/

/-- A compilation comes to stage in an area. -/
def StagesIn (tc : Toolchain σ) (s : World × Compilation σ) (area : StagingArea) : Prop :=
  ∃ t, Reaches tc s t ∧ t.2.phase = .staged area

/-- The world after an area has been made on its disk: names have been drawn and lines been logged,
and that is all. -/
def withArea (w : World) (tag : String) (drawn : Nat) (area : StagingArea) (disk : Disk) : World :=
  ((drawnTo (opened w tag) drawn).withDisk disk).report area.createdLine

/-- What is known of a phase up to the one in which the area is there: nothing but the directory of
the area has been made. -/
def Undisturbed (w₀ w : World) : Phase σ → Prop
  | .ready => w = w₀
  | .naming _ _ => ∃ tag drawn, w = drawnTo (opened w₀ tag) drawn
  | .staged area => ∃ cwd parent n, area = StagingArea.below parent (w₀.names n) ∧
      w₀.disk.makeDirectory cwd area.path Mode.secluded = .ok w.disk ∧
      ∃ tag drawn, w = withArea w₀ tag drawn area w.disk
  | _ => True

lemma Move.undisturbed {w₀ w w' : World} {c c' : Compilation σ} (h : Move tc w c w' c')
    (hw : Undisturbed w₀ w c.phase) : Undisturbed w₀ w' c'.phase := by
  cases h with
  | seek h _ _ =>
    rw [h] at hw
    obtain rfl : w = w₀ := hw
    exact ⟨c.tag, w.drawn, rfl⟩
  | skip h _ =>
    rw [h] at hw
    obtain ⟨tag, drawn, rfl⟩ := hw
    exact ⟨tag, drawn + 1, rfl⟩
  | @make parent tries area disk h made =>
    rw [h] at hw
    obtain ⟨tag, drawn, rfl⟩ := hw
    obtain ⟨harea, hmade⟩ := StagingArea.attempt_eq_made made
    exact ⟨w₀.cwd, parent, drawn, harea, hmade, tag, drawn + 1, rfl⟩
  | @conclude _ _ _ _ _ _ result _ _ => cases result <;> trivial
  | _ => trivial

/-- A compilation waits only once it has its area. -/
lemma undisturbed_of_wait {w₀ w w' : World} {c : Compilation σ} (idle : step tc w c = none) :
    Undisturbed w₀ w' c.phase := by
  cases hphase : c.phase with
  | ready => simp [step, hphase] at idle
  | naming parent tries => simp [step, hphase] at idle
  | staged area => simp [step, hphase] at idle
  | _ => trivial

/-- All that is reached from the start of a compilation is undisturbed and serves its call. -/
lemma undisturbed_of_reaches {w : World} {c : Compilation σ} (hc : c.phase = .ready)
    {t : World × Compilation σ} (h : Reaches tc (w, c) t) :
    Undisturbed w t.1 t.2.phase ∧ t.2.settings = c.settings ∧ t.2.tag = c.tag := by
  induction h with
  | refl =>
    rw [hc]
    exact ⟨rfl, rfl, rfl⟩
  | tail _ hnext ih =>
    obtain ⟨hw, hsettings, htag⟩ := ih
    cases hnext with
    | step hstep =>
      have hmove := move_of_step hstep
      have hsame := hmove.sameCall
      exact ⟨hmove.undisturbed hw, hsame.settings.trans hsettings, hsame.tag.trans htag⟩
    | wait _ idle _ => exact ⟨undisturbed_of_wait idle, hsettings, htag⟩

/-- What a state ends in is what all states that it reaches end in. -/
lemma Ends.of_reaches {s t : World × Compilation σ} {w : World} {result : Except Failure Bundle}
    (hends : Ends tc s w result) (h : Reaches tc s t) : Ends tc t w result := by
  induction h with
  | refl => exact hends
  | tail _ hnext ih => exact (ends_of_next hnext).mp ih

/-! ### While the toolchain is at work -/

/-- What a compilation itself does to a world while its toolchain is at work, and until it has read
the bundle. -/
inductive Notes (token : TokenId) : World → World → Prop
  /-- Lines are logged. -/
  | log {w : World} (lines : List LogLine) : Notes token w (w.reportAll lines)
  /-- The toolchain is told to stop. -/
  | stop {w : World} : Notes token w (w.withTokens (w.tokens.fire token))
  /-- A named pipe is opened. -/
  | listen {w : World} (pipe : PipeId) :
      Notes token w (w.withMachine (w.toMachine.readOutside pipe true))
  /-- What is in a named pipe is collected. -/
  | collect {w : World} (pipe : PipeId) :
      Notes token w (w.withMachine ((w.toMachine.drain pipe).1.readOutside pipe false))

/-- What can happen to a world and to the toolchain that serves a request in it, none once that has
returned: the toolchain makes a step, the world goes on by itself, or something is noted that is not
on the disk. -/
inductive Act (tc : Toolchain σ) (request : Request) (token : TokenId) :
    World × Option σ → World × Option σ → Prop
  | resume {w w' : World} {s s' : σ} (h : tc.resume w request token s = (w', .running s')) :
      Act tc request token (w, some s) (w', some s')
  | finish {w w' : World} {s : σ} {result : Except Failure Report}
      (h : tc.resume w request token s = (w', .finished result)) :
      Act tc request token (w, some s) (w', none)
  | pass {w w' : World} {state : Option σ} {limits : List Nat} (h : w.advance? limits = some w') :
      Act tc request token (w, state) (w', state)
  | note {w w' : World} {state : Option σ} (h : Notes token w w') (kept : w'.disk = w.disk) :
      Act tc request token (w, state) (w', state)

/-- A world comes about from another one while a toolchain serves a request. -/
def Acts (tc : Toolchain σ) (request : Request) (token : TokenId) :
    World × Option σ → World × Option σ → Prop :=
  Relation.ReflTransGen (Act tc request token)

/-- Listening to a named pipe does not change the disk. -/
lemma disk_withMachine_readOutside (w : World) (pipe : PipeId) (reads : Bool) :
    (w.withMachine (w.toMachine.readOutside pipe reads)).disk = w.disk := by
  unfold World.withMachine Machine.readOutside Machine.changePipe
  split <;> rfl

/-- Collecting what is in a named pipe does not change the disk. -/
lemma disk_withMachine_drain (w : World) (pipe : PipeId) :
    (w.withMachine ((w.toMachine.drain pipe).1.readOutside pipe false)).disk = w.disk := by
  unfold World.withMachine Machine.readOutside Machine.drain Machine.changePipe
  split <;> (dsimp only; split <;> rfl)

/-- What a compilation itself does meanwhile leaves the disk as it is. -/
lemma Notes.act {request : Request} {token : TokenId} {w w' : World} {state : Option σ}
    (h : Notes token w w') : Act tc request token (w, state) (w', state) := by
  refine .note h ?_
  cases h with
  | listen pipe => exact disk_withMachine_readOutside _ pipe true
  | collect pipe => exact disk_withMachine_drain _ pipe
  | _ => rfl

lemma Stops.acts {request : Request} {token : TokenId} {w w' : World} {s : σ}
    {result : Except Failure Report} (h : Stops tc request token w s w' result) :
    Acts tc request token (w, some s) (w', none) := by
  induction h with
  | finish h => exact .single (.finish h)
  | running h _ ih => exact .head (.resume h) ih
  | wait _ passed _ ih => exact .head (.pass passed) ih

lemma Works.acts {request : Request} {token : TokenId} {deadline : Option Deadline}
    {w w' : World} {s : σ} {ending : Ending}
    (h : Works tc request token deadline w s w' ending) :
    Acts tc request token (w, some s) (w', none) := by
  induction h with
  | finish h => exact .single (.finish h)
  | running h _ ih => exact .head (.resume h) ih
  | wait _ _ passed _ ih => exact .head (.pass passed) ih
  | @expire _ _ _ limit _ _ _ rest =>
    exact .head (Notes.log [expiredLine tc.name limit]).act (.head Notes.stop.act rest.acts)

lemma ReadsBundle.acts {request : Request} {token : TokenId} {path : Path} {w w' : World}
    {text : Except Fault String} (h : ReadsBundle path w w' text) :
    Acts tc request token (w, none) (w', none) := by
  have hcollects : ∀ {pipe w w' bytes}, Collects pipe w w' bytes →
      Acts tc request token (w, none) (w', none) := by
    intro pipe w w' bytes h
    induction h with
    | done _ => exact .single (Notes.collect _).act
    | wait _ passed _ ih => exact .head (.pass passed) ih
  cases h with
  | file _ => exact .refl
  | pipe _ collected =>
    exact .head (Notes.listen _).act (hcollects collected)

/-! ### When the area is removed -/

/-- A compilation that closes its area removes it. If it succeeds, nothing is left. -/
lemma removes_of_ends_closing {area : StagingArea} {parent : Place} {random : String}
    (hrandom : '/' ∉ random.toList) (harea : area = .below parent random) {w w' : World}
    {c : Compilation σ} {outcome : Except Failure (String × Report)}
    {result : Except Failure Bundle} (h : c.phase = .closing area outcome)
    (hends : Ends tc (w, c) w' result) :
    StagingArea.Removes area w.disk w'.disk ∧ w'.disk.isDirectory w'.cwd area.path = false ∧
      ((∃ bundle, result = .ok bundle) → w'.disk.linkOrNode? w'.cwd area.path = none) := by
  subst harea
  rcases StagingArea.close_cases (.below parent random) w.disk w.cwd with
    ⟨fault, stuck⟩ | ⟨disk, closed⟩
  · rw [ends_of_move (.leave h stuck), ends_finished rfl] at hends
    obtain ⟨rfl, rfl⟩ := hends
    have hnone := StagingArea.isDirectory_of_close_error hrandom stuck
    refine ⟨.nothing (hnone w.cwd), hnone _, ?_⟩
    rintro ⟨bundle, hok⟩
    cases outcome <;> simp [settle, Except.map] at hok
  · rw [ends_of_move (.remove h closed), ends_finished rfl] at hends
    obtain ⟨rfl, rfl⟩ := hends
    obtain ⟨hremoves, hnothing⟩ := StagingArea.removes_of_close_ok hrandom closed
    refine ⟨hremoves, ?_, fun _ => hnothing _⟩
    exact Disk.isDirectory_child_eq_false (StagingArea.isProper_directoryName hrandom)
      (hnothing _)

/-! ### Whole runs -/

/-- An area is there on a disk at a place that was free, and nothing else has changed. -/
structure Opens (area : StagingArea) (place : Place) (d made : Disk) : Prop where
  free : d.entry? place = none
  leads : StagingArea.LeadsTo made area place
  kept : ∀ q, ¬ place <+: q → made.entry? q = d.entry? q

/-- What a call that stages in an area leaves of a world. The area is made at a free place. If the
toolchain is started at all, it acts, from a world in which no more than that and the entry in the
area have been added to the disk. At last the tree of the area is removed, and nothing else. -/
inductive Leaves (tc : Toolchain σ) (request : Request) (area : StagingArea) (w : World) :
    Disk → Prop
  | unserved {place : Place} {made d' : Disk} (opens : Opens area place w.disk made)
      (removed : StagingArea.Removes area made d') : Leaves tc request area w d'
  | served {place : Place} {made entered d' : Disk} {tag : String} {drawn : Nat}
      {caller : Option TokenId} {token : TokenId} {w₁ w₂ : World}
      (opens : Opens area place w.disk made) (enters : Opens area place w.disk entered)
      (invoked : invocation (withArea w tag drawn area made) entered request caller = (w₁, token))
      (acted : Acts tc request token
        ((tc.start w₁ request token).1, some (tc.start w₁ request token).2) (w₂, none))
      (removed : StagingArea.Removes area w₂.disk d') : Leaves tc request area w d'

/-- What follows on the work of a toolchain comes down to acts and the removal of the area. -/
lemma removes_of_ends_afterEnding {area : StagingArea} {parent : Place} {random : String}
    (hrandom : '/' ∉ random.toList) (harea : area = .below parent random) {w w' : World}
    {c : Compilation σ} {ending : Ending} {token : TokenId} {result : Except Failure Bundle}
    (hends : Ends tc (afterEnding tc w c area (requestOf c.settings c.tag area) ending) w' result) :
    (∃ w₂, Acts tc (requestOf c.settings c.tag area) token (w, none) (w₂, none) ∧
        StagingArea.Removes area w₂.disk w'.disk) ∧
      w'.disk.isDirectory w'.cwd area.path = false ∧
      ((∃ bundle, result = .ok bundle) → w'.disk.linkOrNode? w'.cwd area.path = none) := by
  cases ending with
  | late limit late =>
    obtain ⟨hremoves, hgone⟩ := removes_of_ends_closing hrandom harea rfl hends
    exact ⟨⟨w, .refl, hremoves⟩, hgone⟩
  | inTime answer =>
    cases answer with
    | error failure =>
      obtain ⟨hremoves, hgone⟩ := removes_of_ends_closing hrandom harea rfl hends
      exact ⟨⟨w, .refl, hremoves⟩, hgone⟩
    | ok report =>
      obtain ⟨w₃, text, hread, hends⟩ := ends_afterEnding_report.mp hends
      obtain ⟨hremoves, hgone⟩ := removes_of_ends_closing hrandom harea rfl hends
      exact ⟨⟨w₃, .head (Notes.log _).act hread.acts, hremoves⟩, hgone⟩

/-- A compilation that has its area removes it in the end, however it gets there. -/
lemma leaves_of_ends_staged {w w₁ w' : World} {c : Compilation σ} {parent place : Place}
    {random : String} {result : Except Failure Bundle} (hrandom : '/' ∉ random.toList)
    (tree : w.disk.WellFormed) (hfree : w.disk.entry? place = none)
    (hdisk : w₁.disk = w.disk.add place .directory Mode.secluded)
    (hleads : StagingArea.LeadsTo w₁.disk (.below parent random) place)
    (hworld : ∃ tag drawn, w₁ = withArea w tag drawn (.below parent random) w₁.disk)
    (hphase : c.phase = .staged (.below parent random)) (hends : Ends tc (w₁, c) w' result) :
    w'.disk.isDirectory w'.cwd (StagingArea.below parent random).path = false ∧
      ((∃ bundle, result = .ok bundle) →
        w'.disk.linkOrNode? w'.cwd (StagingArea.below parent random).path = none) ∧
      Leaves tc (requestOf c.settings c.tag (.below parent random)) (.below parent random) w
        w'.disk := by
  generalize harea : StagingArea.below parent random = area at *
  have hopens : Opens area place w.disk w₁.disk := by
    refine ⟨hfree, hleads, fun q hq => ?_⟩
    rw [hdisk, Disk.entry?_add hfree, if_neg]
    rintro rfl
    exact hq List.prefix_rfl
  rcases StagingArea.writeEntry_cases area w₁.disk w₁.cwd c.extension c.source with
    ⟨fault, failed⟩ | ⟨disk, written⟩
  · rw [ends_of_move (.unwritten hphase failed)] at hends
    obtain ⟨hremoves, hgone, hnothing⟩ := removes_of_ends_closing hrandom harea.symm rfl hends
    exact ⟨hgone, hnothing, .unserved hopens hremoves⟩
  · rw [ends_of_move (.invoke hphase written), ends_bundling rfl] at hends
    obtain ⟨w₂, ending, worked, hend⟩ := hends
    obtain ⟨⟨w₃, hacts, hremoves⟩, hgone, hnothing⟩ :=
      removes_of_ends_afterEnding hrandom harea.symm hend
    have hfree₁ : w₁.disk.entry? (place ++ [c.extension.fileName]) = none := by
      rw [hdisk, Disk.entry?_add hfree, if_neg (by simp)]
      exact tree.entry?_below hfree _
    have habs : area.path.isAbsolute = true := harea ▸ StagingArea.isAbsolute_below parent hrandom
    have hwritten : disk = w₁.disk.add (place ++ [c.extension.fileName]) _ _ :=
      StagingArea.writeEntry_eq_ok (EntryExtension.isProper_fileName _) habs hleads hfree₁ written
    have henters : Opens area place w.disk disk := by
      rw [hwritten]
      refine ⟨hfree, hleads.add hfree₁, fun q hq => ?_⟩
      rw [Disk.entry?_add hfree₁, if_neg, hopens.kept q hq]
      rintro rfl
      exact hq (List.prefix_append _ _)
    obtain ⟨tag, drawn, hworld⟩ := hworld
    have hinvoked : invocation (withArea w tag drawn area w₁.disk) disk
        (requestOf c.settings c.tag area) c.options.token =
          invocation w₁ disk (requestOf c.settings c.tag area) c.options.token := by
      rw [← hworld]
    exact ⟨hgone, hnothing, .served hopens henters hinvoked (worked.acts.trans hacts) hremoves⟩

/-- However a compilation ends, no directory is left at the path of the area it staged in, and
nothing at all if it has succeeded. The rest of the disk differs only by what the toolchain did:
removing the area follows no link. A compilation that has not staged anything has changed nothing.
-/
theorem run_leaves_no_area (tc : Toolchain σ) (settings : Settings) (source tag : String)
    (options : CompileOptions) (fuel : Nat) (w w' : World) (result : Except Failure Bundle)
    (tree : w.disk.WellFormed) (names : ∀ n, '/' ∉ (w.names n).toList)
    (h : run tc fuel w (new settings source tag options) = .ok (w', result)) :
    (∀ area, StagesIn tc (w, new settings source tag options) area →
      w'.disk.isDirectory w'.cwd area.path = false ∧
      ((∃ bundle, result = .ok bundle) → w'.disk.linkOrNode? w'.cwd area.path = none) ∧
      Leaves tc (requestOf settings tag area) area w w'.disk) ∧
    ((∀ area, ¬ StagesIn tc (w, new settings source tag options) area) → w'.disk = w.disk) := by
  have hends := ends_of_run h
  constructor
  · rintro area ⟨⟨w₁, c⟩, hreach, hphase⟩
    obtain ⟨hw, hsettings, htag⟩ := undisturbed_of_reaches rfl hreach
    simp only at hphase hw hsettings htag
    rw [hphase] at hw
    obtain ⟨cwd, parent, n, rfl, hmade, hworld⟩ := hw
    obtain ⟨place, hfree, hdisk, hleads⟩ := StagingArea.leadsTo_of_made (names n) hmade
    subst hsettings htag
    exact leaves_of_ends_staged (names n) tree hfree hdisk hleads hworld hphase
      (hends.of_reaches hreach)
  · intro hnone
    obtain ⟨stage, houtcome⟩ := exists_outcome_of_ends hends
    have hcreated : ∀ {area w₁}, ¬ Creates settings tag options w area w₁ := by
      intro area w₁ hcreates
      exact hnone area ⟨_, hcreates.leads.reaches, rfl⟩
    cases houtcome with
    | token _ => rfl
    | creation _ _ => rfl
    | entry created _ => exact absurd created hcreated
    | limit _ created _ => exact absurd created hcreated
    | toolchain created _ => exact absurd created hcreated
    | bundle created _ _ => exact absurd created hcreated
    | removal created _ _ _ => exact absurd created hcreated
    | success created _ _ _ => exact absurd created hcreated

/-- A world with a directory for staging and one with a file to keep. -/
def keptWorld : World :=
  .fresh ⟨[(["tmp"], ⟨.directory, 1, Mode.directory, 0⟩),
      (["keep"], ⟨.directory, 2, Mode.directory, 0⟩),
      (["keep", "x"], ⟨.file ByteArray.empty, 3, Mode.file, 0⟩)], 4, 0⟩ [] [] fun _ => "aaaaaa"

/-- A toolchain that moves the directory of its area away and leaves a link in its place. -/
def swapping : Toolchain (List ToolchainAction) :=
  .scripted [.file (.move ⟨""⟩ ⟨"../moved"⟩), .file (.link ⟨""⟩ ⟨"/keep"⟩),
    .finish (.ok Report.empty)]

/-- The area of a toolchain that replaces it by a link is gone, too. -/
theorem run_leaves_no_area_replaced :
    ∃ w' result, run swapping 20 keptWorld (new (.forProject ⟨"/tmp"⟩) "" "js" .none)
        = .ok (w', result) ∧
      keptWorld.disk.WellFormed ∧ (∀ n, '/' ∉ (keptWorld.names n).toList) ∧
      StagesIn swapping (keptWorld, new (.forProject ⟨"/tmp"⟩) "" "js" .none)
        ⟨⟨"/tmp/codeblock-aaaaaa"⟩⟩ ∧
      w'.disk.isDirectory w'.cwd ⟨"/tmp/codeblock-aaaaaa"⟩ = false ∧
      Leaves swapping (requestOf (.forProject ⟨"/tmp"⟩) "js" ⟨⟨"/tmp/codeblock-aaaaaa"⟩⟩)
        ⟨⟨"/tmp/codeblock-aaaaaa"⟩⟩ keptWorld w'.disk := by
  have tree : keptWorld.disk.WellFormed := by decide
  have letters : '/' ∉ "aaaaaa".toList := by decide
  have names : ∀ n, '/' ∉ (keptWorld.names n).toList := fun _ => letters
  have returns : (run swapping 20 keptWorld
      (new (.forProject ⟨"/tmp"⟩) "" "js" .none)).toOption.isSome = true := by decide +kernel
  have made : StagingArea.create keptWorld.disk keptWorld.cwd ⟨"/tmp"⟩ keptWorld.names 0
      = (1, .ok (⟨⟨"/tmp/codeblock-aaaaaa"⟩⟩,
        keptWorld.disk.add ["tmp", "codeblock-aaaaaa"] .directory Mode.secluded)) := by
    decide +kernel
  have stages : StagesIn swapping (keptWorld, new (.forProject ⟨"/tmp"⟩) "" "js" .none)
      ⟨⟨"/tmp/codeblock-aaaaaa"⟩⟩ :=
    ⟨_, (Creates.intro rfl made).leads.reaches, rfl⟩
  cases h : run swapping 20 keptWorld (new (.forProject ⟨"/tmp"⟩) "" "js" .none) with
  | error _ => simp [h, Except.toOption] at returns
  | ok returned =>
    obtain ⟨w', result⟩ := returned
    obtain ⟨hgone, -, hleaves⟩ :=
      (run_leaves_no_area swapping _ "" "js" .none 20 keptWorld w' result tree names h).1 _ stages
    exact ⟨w', result, rfl, tree, names, stages, hgone, hleaves⟩

end SnippetForge.Compilation
