import SnippetForge.Proofs.Compilation.Precedence
import SnippetForge.Proofs.Staging.Reading
import SnippetForge.Toolchain.Script

/-!
# Toolchains that keep to their area

A toolchain is *confined* if all it reads and writes lies below the area it is called for, and if
the name of the area makes no difference to it. Both are said at once by comparing two calls in two
areas of one directory, in worlds that may differ in anything else: there is a relation between the
contents of the areas and the states of the calls that holds when both are started, is kept by every
turn, and makes the turns of both the same. Where an answer has to name a path, it may be one below
the area, and then the answers are the same but for the name of the area.
-/

namespace SnippetForge

/-! ### The same but for the name of an area -/

/-- Two paths are the same, or lead the same way on from two areas. -/
inductive Path.SameBut (a b : Path) : Path → Path → Prop
  | same (p : Path) : SameBut a b p p
  | inside (rel : Place) : SameBut a b (a.descend rel) (b.descend rel)

/-- Two faults are the same but for the area in their paths. -/
inductive Fault.SameBut (a b : Path) : Fault → Fault → Prop
  | same (fault : Fault) : SameBut a b fault fault
  | at {p q : Path} {fault fault' : Fault} (paths : Path.SameBut a b p q)
      (faults : SameBut a b fault fault') : SameBut a b (.at p fault) (.at q fault')
  | onEntry {p q : Path} {fault fault' : Fault} (paths : Path.SameBut a b p q)
      (faults : SameBut a b fault fault') : SameBut a b (.onEntry p fault) (.onEntry q fault')

/-- Two failures are the same but for the area in their paths. -/
inductive Failure.SameBut (a b : Path) : Failure → Failure → Prop
  | same (failure : Failure) : SameBut a b failure failure
  | discovery {p q : Path} {fault fault' : Fault} (paths : Path.SameBut a b p q)
      (faults : Fault.SameBut a b fault fault') :
      SameBut a b (.discovery p fault) (.discovery q fault')
  | staging {p q : Path} {fault fault' : Fault} (paths : Path.SameBut a b p q)
      (faults : Fault.SameBut a b fault fault') : SameBut a b (.staging p fault) (.staging q fault')
  | outputRead {p q : Path} {fault fault' : Fault} (paths : Path.SameBut a b p q)
      (faults : Fault.SameBut a b fault fault') :
      SameBut a b (.outputRead p fault) (.outputRead q fault')
  | cleanup {p q : Path} {fault fault' : Fault} (paths : Path.SameBut a b p q)
      (faults : Fault.SameBut a b fault fault') : SameBut a b (.cleanup p fault) (.cleanup q fault')

namespace Toolchain

open StagingArea
open World (Changes)

variable {σ : Type}

/-! ### Two calls side by side -/

/-- How two calls of a toolchain compare, by what is in their areas and by their states. -/
abbrev Likeness (σ : Type) := Content → σ → Content → σ → Prop

/-- An area holds an entry and nothing else. -/
structure HoldsEntry (e : EntryExtension) (source : String) (c : Content) : Prop where
  entry : ∃ f, c [e.fileName] = some f ∧ f.node = .file source.toUTF8 ∧ f.mode = Mode.file
  alone : ∀ rel, rel ≠ [e.fileName] → c rel = none

/-- Two turns in two areas are alike, and nothing outside of the areas has changed in them. After a
report, the same must be found in both where the bundle is expected. -/
inductive TurnsAlike (like : Likeness σ) (parent : Place) (random random' : String) (w v : World) :
    World × Turn σ → World × Turn σ → Prop
  | running {w' v' : World} {s t : σ} (keeps : Keeps parent random w w')
      (keeps' : Keeps parent random' v v')
      (alike : like (contentOf w' parent random) s (contentOf v' parent random') t) :
      TurnsAlike like parent random random' w v (w', .running s) (v', .running t)
  | waiting {w' v' : World} : TurnsAlike like parent random random' w v (w', .waiting) (v', .waiting)
  | failed {w' v' : World} {f g : Failure} (keeps : Keeps parent random w w')
      (keeps' : Keeps parent random' v v')
      (alike : Failure.SameBut (below parent random).path (below parent random').path f g) :
      TurnsAlike like parent random random' w v (w', .finished (.error f)) (v', .finished (.error g))
  | reported {w' v' : World} {report : Report} (keeps : Keeps parent random w w')
      (keeps' : Keeps parent random' v v')
      (alike : WalksAlike (contentOf w' parent random) (contentOf v' parent random') []
        [outputName, bundleName]) :
      TurnsAlike like parent random random' w v (w', .finished (.ok report))
        (v', .finished (.ok report))

/-- Two calls of a toolchain are started alike and go on alike, whatever is outside of their areas.
-/
structure IsConfinedBy (tc : Toolchain σ) (settings : Settings) (source tag : String)
    (parent : Place) (like : Likeness σ) : Prop where
  start : ∀ {random random' : String} {w v : World}, Hosts w parent random →
    Hosts v parent random' →
    HoldsEntry (EntryExtension.ofTag tag) source (contentOf w parent random) →
    HoldsEntry (EntryExtension.ofTag tag) source (contentOf v parent random') →
    ∀ token token', ∃ w' v' s t,
      tc.start w (Compilation.requestOf settings tag (below parent random)) token = (w', s) ∧
      tc.start v (Compilation.requestOf settings tag (below parent random')) token' = (v', t) ∧
      Keeps parent random w w' ∧ Keeps parent random' v v' ∧
      like (contentOf w' parent random) s (contentOf v' parent random') t
  resume : ∀ {random random' : String} {w v : World} {s t : σ}, Hosts w parent random →
    Hosts v parent random' → like (contentOf w parent random) s (contentOf v parent random') t →
    ∀ token token', TurnsAlike like parent random random' w v
      (tc.resume w (Compilation.requestOf settings tag (below parent random)) token s)
      (tc.resume v (Compilation.requestOf settings tag (below parent random')) token' t)

/-- A toolchain keeps to the area of a call and does not depend on its name. -/
def IsConfined (tc : Toolchain σ) (settings : Settings) (source tag : String) : Prop :=
  ∀ parent, ∃ like, IsConfinedBy tc settings source tag parent like

/-! ### A toolchain that writes a bundle -/

variable {w v : World} {parent : Place} {random random' : String}

/-- The directory for bundles can be made in an area that does not have it. -/
lemma exists_outputDirectory (h : Hosts w parent random)
    (hfit : ¬IsRefused parent random outputName)
    (hfree : contentOf w parent random [outputName] = none) :
    ∃ d, w.disk.makeDirectories w.cwd (below parent random).outputDirectory = .ok d ∧
      Keeps parent random w (w.withDisk d) ∧ ∀ rel, contentOf (w.withDisk d) parent random rel =
        if rel = [outputName] then some (w.disk.newEntry .directory Mode.directory)
        else contentOf w parent random rel := by
  have hname := isProper_outputName
  have hfree₀ : w.disk.entry? (placeBelow parent random ++ ([] ++ [outputName])) = none :=
    (Disk.contentBelow_of_ne_nil (by simp)).symm.trans hfree
  obtain ⟨hkeeps, hcontent⟩ := h.keeps_add hfree₀ (by simpa using h.node?_eq) hname .directory
    Mode.directory
  have hempty : (below parent random).outputDirectory.text ≠ "" := by
    intro hempty
    have habs := @Path.isAbsolute_descend _ [outputName] (by simpa using hname)
      (isAbsolute_below parent h.lettered.slashless)
    have hdescend : (below parent random).path.descend [outputName] =
      (below parent random).outputDirectory := rfl
    rw [hdescend] at habs
    simp [Path.isAbsolute, hempty] at habs
  refine ⟨_, Disk.makeDirectories_of_makeDirectory hempty ?_, hkeeps, hcontent⟩
  unfold Disk.makeDirectory Disk.make Disk.freePlace outputDirectory
  rw [Disk.dropEndSlashes_child _ hname, (h.locate_child hname (by decide) hfree₀ false w.cwd).2 hfit]
  simp only [h.mayChange, if_true, List.nil_append]

/-- A bundle can be written into the directory for bundles unless it is there. -/
lemma exists_bundle (h : Hosts w parent random)
    (hshort : ¬IsTooLong parent random [outputName, bundleName]) {e : Entry}
    (hdirectory : contentOf w parent random [outputName] = some e) (hnode : e.node = .directory)
    (hmode : e.mode = Mode.directory)
    (hfree : contentOf w parent random [outputName, bundleName] = none) (bytes : ByteArray) :
    ∃ d, w.disk.writeFile w.cwd (below parent random).bundlePath bytes = .ok d ∧
      Keeps parent random w (w.withDisk d) ∧ ∀ rel, contentOf (w.withDisk d) parent random rel =
        if rel = [outputName, bundleName] then some (w.disk.newEntry (.file bytes) Mode.file)
        else contentOf w parent random rel := by
  have hname := isProper_outputName
  have hname' := isProper_bundleName
  have hentry : w.disk.entry? (placeBelow parent random ++ [outputName]) = some e :=
    (Disk.contentBelow_of_ne_nil (List.cons_ne_nil _ _)).symm.trans hdirectory
  have habove : w.disk.node? (placeBelow parent random ++ [outputName]) = some .directory :=
    Disk.node?_eq_some_iff.mpr ⟨e, hentry, hnode⟩
  have hfree₁ : w.disk.entry? (placeBelow parent random ++ ([outputName] ++ [bundleName])) = none :=
    (Disk.contentBelow_of_ne_nil (by simp)).symm.trans hfree
  obtain ⟨hkeeps, hcontent⟩ := h.keeps_add hfree₁ habove hname' (.file bytes) Mode.file
  refine ⟨_, ?_, hkeeps, hcontent⟩
  have hmay : w.disk.mayChange (placeBelow parent random ++ [outputName]) = true := by
    rw [Disk.mayChange, hentry, Option.any_some, hmode]
    decide
  have hmissing : w.disk.node? (placeBelow parent random ++ [outputName] ++ [bundleName]) = none := by
    rw [List.append_assoc]
    exact Disk.node?_eq_none_iff.mpr hfree₁
  have hlocate := h.locate_descend (List.cons_ne_nil outputName [bundleName]) (by decide)
    (by decide) hshort true w.cwd
  rw [Disk.resolve_node ⟨hname.ne_current, hname.ne_up, by decide⟩ habove rfl,
    Disk.resolve_missing ⟨hname'.ne_current, hname'.ne_up, by decide⟩ hmissing, habove,
    h.settled_append] at hlocate
  change w.disk.locate w.cwd true (below parent random).bundlePath = _ at hlocate
  unfold Disk.writeFile Disk.updateFile
  rw [hlocate]
  simp only [List.isEmpty_nil, Option.isSome_some, Bool.not_false, Bool.and_self, if_true, hmay,
    List.append_assoc]

open ToolchainAction in
/-- A bundle that is too far below an area is not written. -/
lemma writeBundle_of_isTooLong (h : Hosts w parent random)
    (hlong : IsTooLong parent random [outputName, bundleName]) (settings : Settings) (tag : String)
    (transform : String → String) :
    ∃ fault, writeBundle w.disk w.cwd (Compilation.requestOf settings tag (below parent random))
      transform = .error fault := by
  unfold writeBundle
  split
  · exact ⟨_, rfl⟩
  split
  · exact ⟨_, rfl⟩
  · next d _ =>
    have hlocate := h.locate_of_isTooLong (by decide) (by decide) hlong d true w.cwd
    change d.locate w.cwd true (below parent random).bundlePath = _ at hlocate
    unfold Disk.writeFile Disk.updateFile
    rw [Compilation.bundlePath_requestOf, hlocate]
    exact ⟨_, rfl⟩

open ToolchainAction in
/-- Otherwise it is written as soon as the entry has been read, and nothing else. -/
lemma exists_writeBundle (h : Hosts w parent random) {settings : Settings} {source tag text : String}
    (hshort : ¬IsTooLong parent random [outputName, bundleName])
    (holds : HoldsEntry (EntryExtension.ofTag tag) source (contentOf w parent random))
    (hread : w.disk.readText w.cwd
      (Compilation.requestOf settings tag (below parent random)).entry = .ok text)
    (hname : (EntryExtension.ofTag tag).fileName ≠ outputName) (transform : String → String) :
    ∃ disk, writeBundle w.disk w.cwd (Compilation.requestOf settings tag (below parent random))
        transform = .ok disk ∧ Keeps parent random w (w.withDisk disk) ∧
      (∃ e, contentOf (w.withDisk disk) parent random [outputName] = some e ∧
        e.node = .directory ∧ e.mode = Mode.directory) ∧
      ∃ e, contentOf (w.withDisk disk) parent random [outputName, bundleName] = some e ∧
        e.node = .file (transform text).toUTF8 ∧ e.mode = Mode.file := by
  have hfit : ¬IsRefused parent random outputName := by
    rintro (hlong | hbig)
    · refine hshort (Nat.lt_of_lt_of_le hlong ?_)
      simp
    · exact absurd hbig (by decide)
  obtain ⟨d, hmade, hkeeps, hcontent⟩ := exists_outputDirectory h hfit
    (holds.alone _ (by simpa using Ne.symm hname))
  have hosts := h.of_keeps hkeeps
  have hbundle : contentOf (w.withDisk d) parent random [outputName, bundleName] = none :=
    (hcontent _).trans ((if_neg (by simp)).trans (holds.alone _ (by simp)))
  obtain ⟨d', hwritten, hkeeps', hcontent'⟩ := exists_bundle hosts hshort
    ((hcontent [outputName]).trans (if_pos rfl)) rfl rfl hbundle (transform text).toUTF8
  have hall := hkeeps.trans hkeeps'
  refine ⟨d', ?_, ⟨Changes.withDisk h.orderly hall.orderly.tree hall.disk h.apart_tree, hall.root⟩,
    ⟨w.disk.newEntry .directory Mode.directory, ?_, rfl, rfl⟩,
    ⟨_, (hcontent' [outputName, bundleName]).trans (if_pos rfl), rfl, rfl⟩⟩
  · rw [hkeeps.cwd] at hwritten
    unfold writeBundle
    rw [hread]
    simp only
    rw [show (Compilation.requestOf settings tag (below parent random)).outputDirectory =
      (below parent random).outputDirectory from rfl, hmade, Compilation.bundlePath_requestOf]
    exact hwritten
  · exact (hcontent' [outputName]).trans
      ((if_neg (by simp)).trans ((hcontent [outputName]).trans (if_pos rfl)))

end Toolchain

end SnippetForge
