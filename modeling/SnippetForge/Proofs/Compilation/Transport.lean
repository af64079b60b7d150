import SnippetForge.Proofs.Compilation.Isolation

/-!
# What becomes of the text of a snippet

The text of a snippet crosses two files: the entry, which the toolchain reads, and the bundle, which
it writes. Their paths are told to it in a request, and the bundle is read back by a path that the
staging area gives. A call *carries* its text *over* if the toolchain finds the entry, writes what a
function makes of its text where it is told to, and returns in time. Then nothing else happens to
the text: the code that is returned is that function of the source, whatever characters are in it,
and the identity gives back the source.

The world of the call may be in any state. What is on its disk is looked at in a world of its own, in
which nothing else has happened and which hosts the area.
-/

namespace SnippetForge

open StagingArea

/-- A world in which nothing has happened is orderly if its disk is a tree. -/
lemma World.isOrderly_fresh {disk : Disk} {cwd : Place} {names : ℕ → String}
    (tree : disk.WellFormed) (standing : disk.IsStanding cwd) (hnames : ∀ n, IsRandomPart (names n))
    (environment : List (String × String)) : (fresh disk cwd environment names).IsOrderly :=
  ⟨tree, standing, by simp [fresh, Tokens.none], by simp [fresh, Machine.idle], hnames⟩

/-- The root stands on every disk. -/
lemma Disk.isStanding_root (d : Disk) : d.IsStanding [] :=
  ⟨[], [], rfl, rfl, by simp⟩

namespace StagingArea

variable {w : World} {parent : Place} {random : String}

/-! ### Reading below an area -/

/-- What a path below an area leads to if every name of it can be looked for. -/
lemma Hosts.locate_of_content (h : Hosts w parent random) {above : Place} {name : String}
    (hsought : ∀ n ∈ above ++ [name], Disk.IsSought n)
    (hnul : (above ++ [name]).any Path.hasNul = false)
    (hshort : ¬IsTooLong parent random (above ++ [name])) {e : Entry}
    (found : contentOf w parent random (above ++ [name]) = some e) (real : e.node.isLink = false)
    (cwd : Place) :
    w.disk.locate cwd true ((below parent random).path.descend (above ++ [name])) =
      .ok (.taken (placeBelow parent random ++ (above ++ [name])) e.node) := by
  have hentry : w.disk.entry? (placeBelow parent random ++ above ++ [name]) = some e := by
    rw [List.append_assoc]
    exact (Disk.contentBelow_of_ne_nil (by simp)).symm.trans found
  have hnode := Disk.node?_eq_some_iff.mpr ⟨e, hentry, rfl⟩
  have hproper : ∀ n ∈ above ++ [name], IsProper n := by
    intro n hn
    refine h.orderly.tree.isProper hnode ?_
    rw [List.append_assoc]
    exact List.mem_append_right _ hn
  have hall : ∀ n ∈ placeBelow parent random ++ above, Disk.IsSought n := by
    intro n hn
    rcases List.mem_append.mp hn with hn | hn
    · exact h.sought n hn
    · exact hsought n (List.mem_append_left _ hn)
  have harr := (h.orderly.tree.arrives hall (h.orderly.tree.node?_above hentry)).append_node
    (hsought name (by simp)) hnode real
  have hsplit := @Disk.Arrives.resolve_append _ true _ _ _ _ _ _ h.arrives (above ++ [name])
    (fun _ => rfl) Disk.maxLinks
  rw [← List.append_assoc, harr.resolve_eq (Nat.zero_le _)] at hsplit
  rw [h.locate_descend (by simp) hproper hnul hshort, ← hsplit, List.append_assoc]

/-- A file below an area is read, and is no named pipe, whatever else is on the machine. -/
lemma Hosts.readText_of_content (h : Hosts w parent random) {above : Place} {name : String}
    (hsought : ∀ n ∈ above ++ [name], Disk.IsSought n)
    (hnul : (above ++ [name]).any Path.hasNul = false)
    (hshort : ¬IsTooLong parent random (above ++ [name])) {e : Entry}
    (found : contentOf w parent random (above ++ [name]) = some e) {text : String}
    (hnode : e.node = .file text.toUTF8) (readable : e.mode.isReadable = true) (cwd : Place) :
    w.disk.readText cwd ((below parent random).path.descend (above ++ [name])) = .ok text ∧
      ∀ m : Machine, m.disk = w.disk →
        m.namedPipe? cwd ((below parent random).path.descend (above ++ [name])) = none := by
  have hlocate := h.locate_of_content hsought hnul hshort found (by rw [hnode]; rfl) cwd
  have hentry : w.disk.entry? (placeBelow parent random ++ (above ++ [name])) = some e :=
    (Disk.contentBelow_of_ne_nil (by simp)).symm.trans found
  refine ⟨?_, fun m hm => ?_⟩
  · have hbytes : w.disk.readBytes cwd ((below parent random).path.descend (above ++ [name])) =
        .ok text.toUTF8 := by
      simp [Disk.readBytes, Disk.locateEntry, Disk.locateNode, hlocate, hentry, readable, hnode]
    unfold Disk.readText
    rw [hbytes]
    simp only
    rw [Disk.textOf, Text.fromUTF8?_toUTF8]
  · simp [Machine.namedPipe?, Disk.targetEntry?, Disk.locateEntry, Disk.locateNode, hm, hlocate,
      hentry, hnode]

/-- The path of an area leads to the same from every directory. -/
lemma close_below (h : IsRandomPart random) (d : Disk) (cwd cwd' : Place) :
    (below parent random).close d cwd = (below parent random).close d cwd' := by
  have hlocate := @Disk.locate_of_absolute d false _ (isAbsolute_below parent h.slashless) cwd cwd'
  unfold close Disk.removeTree Disk.locateNode
  rw [hlocate]

/-- An area is hosted in a world of its own that has nothing but the disk. -/
lemma Hosts.alone (h : Hosts w parent random) :
    Hosts (.fresh w.disk [] [] w.names) parent random :=
  ⟨World.isOrderly_fresh h.orderly.tree w.disk.isStanding_root h.orderly.names [], h.lettered,
    h.made, h.sought, h.sound, h.settled, h.sealed, by simp [World.fresh, placeBelow]⟩

end StagingArea

namespace Compilation

open StagingArea ToolchainAction
open Toolchain (HoldsEntry exists_writeBundle writeBundle_of_isTooLong)

variable {σ : Type} {tc : Toolchain σ} {f : String → String} {report : Report}
  {settings : Settings} {source tag : String} {options : CompileOptions} {w : World}

/-! ### Calls that carry their text over -/

/-- How a call goes in which the toolchain carries the text over. It is invoked and comes to its end
before its time is up, with a report. What it leaves in the area is what comes of reading the entry
and writing what a function makes of the text where the bundle is expected; elsewhere on the disk
anything may have changed. -/
inductive CarriesOver (tc : Toolchain σ) (f : String → String) (report : Report)
    (settings : Settings) (source tag : String) (options : CompileOptions) (w : World) : Prop
  | intro {area : StagingArea} {w₁ w₂ : World} {disk bundled : Disk} {region : Set Place}
      (created : Creates settings tag options w area w₁)
      (written : area.writeEntry w₁.disk w₁.cwd (EntryExtension.ofTag tag) source
        = .ok (area.entryPath (EntryExtension.ofTag tag), disk))
      (bundles : writeBundle disk (invocation w₁ disk (requestOf settings tag area) options.token).1.cwd
        (requestOf settings tag area) f = .ok bundled)
      (worked : Works tc (requestOf settings tag area)
        (invocation w₁ disk (requestOf settings tag area) options.token).2
        (deadlineFrom w₁ settings options) (startOf tc settings tag options area w₁ disk).1
        (startOf tc settings tag options area w₁ disk).2 w₂ (.inTime (.ok report)))
      (tree : w₂.disk.WellFormed) (left : Disk.DiffersWithin region bundled w₂.disk)
      (elsewhere : Disjoint (Place.tree area.path.names) region) :
      CarriesOver tc f report settings source tag options w

/-- A toolchain that carries text over wherever the entry can be read and the bundle written: it
comes to its end before any time is up, and leaves nothing else on the disk. -/
def Carries (tc : Toolchain σ) (f : String → String) (report : Report) : Prop :=
  ∀ (w : World) (request : Request) (token : TokenId) (deadline : Option Deadline) (bundled : Disk),
    writeBundle w.disk w.cwd request f = .ok bundled →
      ∃ w', Works tc request token deadline (tc.start w request token).1
        (tc.start w request token).2 w' (.inTime (.ok report)) ∧ w'.disk = bundled

/-- A toolchain that does this and nothing else carries text over. -/
lemma carries_scripted (f : String → String) (report : Report) :
    Carries (.scripted [.bundle f, .finish (.ok report)]) f report := by
  intro w request token deadline bundled h
  have hplay : play w request token [.bundle f, .finish (.ok report)] =
      (w.withDisk bundled, .running [.finish (.ok report)]) := by
    simp only [play, h]
  exact ⟨w.withDisk bundled, .running hplay (.finish rfl), rfl⟩

/-- An area for a snippet can be made in a root, under a name that is proposed in time, and neither
the path of the entry nor that of the bundle is too long in it. -/
inductive HasRoom (w : World) (root : Path) (tag : String) : Prop
  | intro {parent : Place} {n : ℕ} (found : parentOf w.disk w.cwd root = .ok parent)
      (early : n < maxTries) (admits : Admits w.disk parent (w.names (w.drawn + n)))
      (entry : ¬IsRefused parent (w.names (w.drawn + n)) (EntryExtension.ofTag tag).fileName)
      (bundle : ¬IsTooLong parent (w.names (w.drawn + n)) [outputName, bundleName]) :
      HasRoom w root tag

/-! ### The area of a call -/

/-- An area that a call has made is hosted in a world of its own, with nothing in it. -/
lemma Creates.exists_hosts {area : StagingArea} {w₁ : World}
    (created : Creates settings tag options w area w₁) (tree : w.disk.WellFormed)
    (standing : w.disk.IsStanding w.cwd) (hnames : ∀ n, IsRandomPart (w.names n)) :
    ∃ v parent random, parentOf w.disk w.cwd settings.stagingRoot = .ok parent ∧
      area = below parent random ∧ v.disk = w₁.disk ∧ v.cwd = w₁.cwd ∧ Hosts v parent random ∧
      ∀ rel, contentOf v parent random rel = none := by
  obtain ⟨-, made⟩ := created
  obtain ⟨parent, n, hparent, hattempt⟩ := exists_attempt_of_create made
  obtain ⟨node, hnode, hreal⟩ := exists_node_of_parentOf tree standing hparent
  have hadmits := admits_of_made (hnames n) tree hnode hreal hattempt
  rw [hadmits.attempt_eq tree (hnames n), Attempt.made.injEq] at hattempt
  obtain ⟨rfl, rfl⟩ := hattempt
  obtain ⟨-, hhosts, hempty⟩ :=
    Admits.hosts (World.isOrderly_fresh tree standing hnames []) (hnames n) hadmits
  exact ⟨(World.fresh w.disk w.cwd [] w.names).withDisk _, parent, w.names n, hparent, rfl, rfl, rfl,
    hhosts, hempty⟩

/-- Into a new area the entry is written unless its path is too long. -/
lemma writeEntry_into_new {v w₁ : World} {parent : Place} {random : String} (hdisk : v.disk = w₁.disk)
    (hcwd : v.cwd = w₁.cwd) (hosts : Hosts v parent random)
    (empty : ∀ rel, contentOf v parent random rel = none) (source tag : String) :
    (IsRefused parent random (EntryExtension.ofTag tag).fileName →
      (below parent random).writeEntry w₁.disk w₁.cwd (EntryExtension.ofTag tag) source =
        .error (.staging ((below parent random).entryPath (EntryExtension.ofTag tag))
          (.system .nameTooLong))) ∧
    (¬IsRefused parent random (EntryExtension.ofTag tag).fileName →
      ∃ disk, (below parent random).writeEntry w₁.disk w₁.cwd (EntryExtension.ofTag tag) source =
        .ok ((below parent random).entryPath (EntryExtension.ofTag tag), disk)) := by
  have hname := EntryExtension.isProper_fileName tag
  have hnul := EntryExtension.hasNul_fileName tag
  have hfree := (Disk.contentBelow_of_ne_nil (List.cons_ne_nil _ _)).symm.trans
    (empty [(EntryExtension.ofTag tag).fileName])
  rw [← hdisk, ← hcwd]
  exact ⟨fun refused => hosts.writeEntry_of_isRefused hname hnul hfree refused source,
    fun accepted => ⟨_, hosts.writeEntry_of_not_isRefused hname hnul hfree accepted source⟩⟩

/-- When the toolchain is invoked, it finds the source as the entry of an area that is hosted in a
world of its own. -/
lemma exists_hosts_of_written {v w₁ : World} {parent : Place} {random : String} {disk : Disk}
    (hdisk : v.disk = w₁.disk) (hcwd : v.cwd = w₁.cwd) (hosts : Hosts v parent random)
    (empty : ∀ rel, contentOf v parent random rel = none)
    (written : (below parent random).writeEntry w₁.disk w₁.cwd (EntryExtension.ofTag tag) source =
      .ok ((below parent random).entryPath (EntryExtension.ofTag tag), disk)) :
    ∃ v', v'.disk = disk ∧
      v'.cwd = (invocation w₁ disk (requestOf settings tag (below parent random))
        options.token).1.cwd ∧
      Hosts v' parent random ∧
      HoldsEntry (EntryExtension.ofTag tag) source (contentOf v' parent random) ∧
      v'.disk.readText v'.cwd (requestOf settings tag (below parent random)).entry = .ok source := by
  have hname := EntryExtension.isProper_fileName tag
  have hnul := EntryExtension.hasNul_fileName tag
  have hfree := (Disk.contentBelow_of_ne_nil (List.cons_ne_nil _ _)).symm.trans
    (empty [(EntryExtension.ofTag tag).fileName])
  rw [← hdisk, ← hcwd] at written
  by_cases refused : IsRefused parent random (EntryExtension.ofTag tag).fileName
  · rw [hosts.writeEntry_of_isRefused hname hnul hfree refused] at written
    cases written
  rw [hosts.writeEntry_of_not_isRefused hname hnul hfree refused, Except.ok.injEq,
    Prod.mk.injEq] at written
  have hinvocation := keeps_invocation hosts hname empty source
    (requestOf settings tag (below parent random)) options.token
  rw [written.2] at hinvocation
  obtain ⟨hkeeps, holds⟩ := hinvocation
  have hosts' := hosts.of_keeps hkeeps
  obtain ⟨e, he, hnode, hmode⟩ := holds.entry
  have hsought : ∀ n ∈ [] ++ [(EntryExtension.ofTag tag).fileName], Disk.IsSought n := by
    simpa using ⟨hname.ne_current, hname.ne_up, Nat.not_lt.mp fun hlong => refused (.inr hlong)⟩
  have hread := (hosts'.readText_of_content hsought (by simpa using hnul)
    (fun hlong => refused (.inl hlong)) he hnode (by rw [hmode]; decide)
    (invocation v disk (requestOf settings tag (below parent random)) options.token).1.cwd).1
  refine ⟨(invocation v disk (requestOf settings tag (below parent random)) options.token).1, rfl,
    ?_, hosts', holds, hread⟩
  change v.disk.follow disk v.cwd = w₁.disk.follow disk w₁.cwd
  rw [hdisk, hcwd]

/-- A bundle that has been written from an entry is in the area, made from the text of the entry. -/
lemma hosts_of_writeBundle {v : World} {parent : Place} {random : String} {bundled : Disk}
    (hosts : Hosts v parent random)
    (holds : HoldsEntry (EntryExtension.ofTag tag) source (contentOf v parent random))
    (hread : v.disk.readText v.cwd (requestOf settings tag (below parent random)).entry = .ok source)
    (bundles : writeBundle v.disk v.cwd (requestOf settings tag (below parent random)) f =
      .ok bundled) :
    ¬IsTooLong parent random [outputName, bundleName] ∧ Hosts (v.withDisk bundled) parent random ∧
      ∃ e, contentOf (v.withDisk bundled) parent random [outputName, bundleName] = some e ∧
        e.node = .file (f source).toUTF8 ∧ e.mode = Mode.file := by
  by_cases hlong : IsTooLong parent random [outputName, bundleName]
  · obtain ⟨fault, hfault⟩ := writeBundle_of_isTooLong hosts hlong settings tag f
    rw [hfault] at bundles
    cases bundles
  obtain ⟨disk, hdisk, hkeeps, -, hbundle⟩ := exists_writeBundle hosts hlong holds hread
    (fileName_ne_outputName tag) f
  rw [hdisk, Except.ok.injEq] at bundles
  subst bundles
  exact ⟨hlong, hosts.of_keeps hkeeps, hbundle⟩

/-- A call that carries its text over returns what the function makes of the source. -/
lemma CarriesOver.exists_run (carries : CarriesOver tc f report settings source tag options w)
    (tree : w.disk.WellFormed) (standing : w.disk.IsStanding w.cwd)
    (hnames : ∀ n, IsRandomPart (w.names n)) :
    ∃ fuel w' elapsed, run tc fuel w (new settings source tag options) =
      .ok (w', .ok ⟨f source, EntryExtension.ofTag tag, report.diagnostics, elapsed⟩) := by
  obtain ⟨created, written, bundles, worked, tree', left, elsewhere⟩ := carries
  rename_i area w₁ w₂ disk bundled region
  obtain ⟨v₁, parent, random, -, rfl, hdisk, hcwd, hosted, empty⟩ :=
    created.exists_hosts tree standing hnames
  obtain ⟨v, rfl, hcwd', hosts, holds, hread⟩ :=
    exists_hosts_of_written hdisk hcwd hosted empty written
  rw [← hcwd'] at bundles
  obtain ⟨hshort, hosts', e, he, hnode, hmode⟩ := hosts_of_writeBundle hosts holds hread bundles
  -- What has changed elsewhere since leaves the area as it is.
  have hchanges : World.Changes region (.fresh bundled [] [] v.names)
      (.fresh w₂.disk [] [] v.names) :=
    ⟨World.isOrderly_fresh tree' w₂.disk.isStanding_root hosts.orderly.names [], rfl, left⟩
  rw [names_below hosts.proper hosts.lettered] at elsewhere
  obtain ⟨hosts'', hcontent⟩ := hosts'.alone.of_changes hchanges elsewhere
  have hfound : contentOf (.fresh w₂.disk [] [] v.names) parent random ([outputName] ++ [bundleName]) =
      some e := (congrFun hcontent _).trans he
  have hsought : ∀ n ∈ [outputName] ++ [bundleName], Disk.IsSought n := by
    have hnames : Disk.IsSought outputName ∧ Disk.IsSought bundleName :=
      ⟨⟨by decide, by decide, by decide⟩, ⟨by decide, by decide, by decide⟩⟩
    simpa using hnames
  obtain ⟨htext, hregular⟩ := hosts''.readText_of_content hsought (by decide) hshort hfound hnode
    (by rw [hmode]; decide) w₂.cwd
  have hclose := hosts''.close_eq
  rw [close_below hosts.lettered _ _ w₂.cwd] at hclose
  have invoked : Invokes tc settings source tag options (below parent random) w₁ w₂
      (.inTime (.ok report)) := .intro written worked
  have read : ReadsBundle (below parent random).bundlePath (reported tc w₂ report)
      (reported tc w₂ report) (.ok (f source)) := by
    have hfile : ReadsBundle (below parent random).bundlePath (reported tc w₂ report)
        (reported tc w₂ report) _ := .file (hregular w₂.toMachine rfl)
    rwa [show (reported tc w₂ report).disk.readText (reported tc w₂ report).cwd
      (below parent random).bundlePath = .ok (f source) from htext] at hfile
  have outcome : Outcome tc settings source tag options w .success _ _ :=
    .success created invoked read hclose
  obtain ⟨fuel, hrun⟩ := exists_run_of_ends outcome.ends
  exact ⟨fuel, _, _, hrun⟩

/-! ### Calls that can be served -/

-- Left reducible, these are unfolded down to the bytes of their paths.
attribute [local irreducible] StagingArea.attempt StagingArea.writeEntry StagingArea.close

/-- If one of the names that are proposed in time makes an area, one is made, under that name or an
earlier one. -/
lemma exists_create_of_admits {root : Path} {parent : Place} {n : ℕ} (tree : w.disk.WellFormed)
    (standing : w.disk.IsStanding w.cwd) (hnames : ∀ n, IsRandomPart (w.names n))
    (found : parentOf w.disk w.cwd root = .ok parent) (early : n < maxTries)
    (admits : Admits w.disk parent (w.names (w.drawn + n))) :
    ∃ m disk, create w.disk w.cwd root w.names w.drawn =
      (m + 1, .ok (below parent (w.names m), disk)) := by
  have hmade := fun random h admits => @Admits.attempt_eq _ w.cwd parent random tree h admits
  have huntaken : attempt w.disk w.cwd parent (w.names (w.drawn + n)) ≠ .taken := by
    simp [hmade _ (hnames _) admits]
  obtain ⟨node, hnode, hreal⟩ := exists_node_of_parentOf tree standing found
  obtain ⟨m, ⟨fault, hattempt, -⟩ | ⟨area, disk, hattempt, hsearch⟩⟩ :=
    search_eq ⟨n, early, huntaken⟩
  · -- A name that is not taken fails only if they all do.
    have huntaken' : attempt w.disk w.cwd parent (w.names m) ≠ .taken := by simp [hattempt]
    rcases attempt_alike (hnames _) (hnames m) tree hnode hreal (fun _ _ => rfl) huntaken
      huntaken' with ⟨fault', hfailed, -⟩ | ⟨-, admits'⟩
    · rw [hmade _ (hnames _) admits] at hfailed
      cases hfailed
    · rw [hmade _ (hnames m) admits'] at hattempt
      cases hattempt
  · obtain rfl := (attempt_eq_made hattempt).1
    refine ⟨m, disk, ?_⟩
    simp only [create, found, hsearch]

/-- Where there is room, a toolchain that carries text over carries it over in a call that has not
been cancelled. -/
lemma HasRoom.carriesOver (room : HasRoom w settings.stagingRoot tag) (tree : w.disk.WellFormed)
    (standing : w.disk.IsStanding w.cwd) (hnames : ∀ n, IsRandomPart (w.names n))
    (live : isCancelled w options = false) (carries : Carries tc f report) :
    CarriesOver tc f report settings source tag options w := by
  obtain @⟨parent, n, found, early, admits, entry, bundle⟩ := room
  obtain ⟨m, disk, hcreate⟩ := exists_create_of_admits tree standing hnames found early admits
  obtain ⟨w₁, created⟩ : ∃ w₁, Creates settings tag options w (below parent (w.names m)) w₁ :=
    ⟨_, .intro live hcreate⟩
  obtain ⟨v₁, parent', random, hparent, harea, hdisk, hcwd, hosted, empty⟩ :=
    created.exists_hosts tree standing hnames
  rw [found, Except.ok.injEq] at hparent
  subst hparent
  rw [below_inj (hnames m) hosted.lettered harea] at created
  have accepted := fun h => entry ((isRefused_iff (hnames _) hosted.lettered).mp h)
  have hshort := fun h => bundle ((isTooLong_iff (hnames _) hosted.lettered).mp h)
  obtain ⟨entered, written⟩ :=
    (writeEntry_into_new hdisk hcwd hosted empty source tag).2 accepted
  obtain ⟨v, hentered, hcwd', hosts, holds, hread⟩ :=
    @exists_hosts_of_written settings _ _ options _ _ _ _ _ hdisk hcwd hosted empty written
  obtain ⟨bundled, bundles, hkeeps, -⟩ := exists_writeBundle hosts hshort holds hread
    (fileName_ne_outputName tag) f
  rw [hentered, hcwd'] at bundles
  obtain ⟨w₂, worked, rfl⟩ := carries
    (invocation w₁ entered (requestOf settings tag (below parent random)) options.token).1 _
    (invocation w₁ entered (requestOf settings tag (below parent random)) options.token).2
    (deadlineFrom w₁ settings options) bundled bundles
  exact .intro created written bundles worked hkeeps.orderly.tree (.of_eq fun _ => rfl)
    (Set.disjoint_empty _)

/-- The text of a snippet is carried over verbatim. Whatever the source, the tag, the staging root
and the function are, a call in which the toolchain finds the entry, writes what the function makes
of its text where the bundle is expected and reports in time returns what the function makes of the
source, with the extension for the tag and the diagnostics of the report in their order. If the
function is the identity, that is the source. Such a call takes place wherever there is room for an
area and the caller has not cancelled. -/
theorem carries_text_verbatim (tc : Toolchain σ) (f : String → String) (report : Report)
    (settings : Settings) (source tag : String) (options : CompileOptions) (w : World)
    (tree : w.disk.WellFormed) (standing : w.disk.IsStanding w.cwd)
    (hnames : ∀ n, IsRandomPart (w.names n)) :
    (CarriesOver tc f report settings source tag options w → ∃ fuel w' elapsed,
      run tc fuel w (new settings source tag options) =
        .ok (w', .ok ⟨f source, EntryExtension.ofTag tag, report.diagnostics, elapsed⟩)) ∧
    (CarriesOver tc id report settings source tag .none w → ∃ fuel w' elapsed,
      run tc fuel w (new settings source tag .none) =
        .ok (w', .ok ⟨source, EntryExtension.ofTag tag, report.diagnostics, elapsed⟩)) ∧
    (HasRoom w settings.stagingRoot tag → isCancelled w options = false → Carries tc f report →
      CarriesOver tc f report settings source tag options w) :=
  ⟨fun carries => carries.exists_run tree standing hnames,
    fun carries => carries.exists_run tree standing hnames,
    fun room live carries => room.carriesOver tree standing hnames live carries⟩

/-- A source with a mark of byte order, both kinds of line ends, letters of other scripts and a
character that texts seldom have. -/
def oddSource : String := "\uFEFFlet é = '\x00λ';\r\n\r// 𝕊\n\n"

/-- Such a source is carried over verbatim, under a tag that cannot be an extension, with errors and
warnings in the report. -/
theorem carries_text_verbatim_odd :
    HasRoom crowdedWorld ⟨"/tmp"⟩ "../x" ∧
    ∃ fuel w' elapsed,
      run (.scripted [.bundle (· ++ "done()"), .finish (.ok ⟨[⟨.error, "e"⟩, ⟨.warning, ""⟩]⟩)]) fuel
          crowdedWorld (new (.forProject ⟨"/tmp"⟩) oddSource "../x" .none) =
        .ok (w', .ok ⟨oddSource ++ "done()", ⟨"js", some .default⟩,
          [⟨.error, "e"⟩, ⟨.warning, ""⟩], elapsed⟩) := by
  have hnames : ∀ n, IsRandomPart (crowdedWorld.names n) := by
    intro n
    change IsRandomPart (if n < 2 then "aaaaaa" else "bbbbbb")
    split <;> decide
  have room : HasRoom crowdedWorld ⟨"/tmp"⟩ "../x" := by
    have hplace : parentOf crowdedWorld.disk crowdedWorld.cwd ⟨"/tmp"⟩ = .ok ["tmp"] := by
      decide +kernel
    have hsought : ∀ name ∈ placeBelow ["tmp"] "aaaaaa", Disk.IsSought name := by
      have hall : Disk.IsSought "tmp" ∧ Disk.IsSought (directoryName "aaaaaa") :=
        ⟨⟨by decide, by decide, by decide⟩, ⟨by decide, by decide, by decide⟩⟩
      simpa [placeBelow] using hall
    have admits : Admits crowdedWorld.disk ["tmp"] "aaaaaa" :=
      ⟨by decide +kernel, by decide +kernel, by decide +kernel, hsought,
        ⟨by decide +kernel, by decide +kernel, by decide +kernel⟩, by decide⟩
    have accepted : ¬IsRefused ["tmp"] "aaaaaa" (EntryExtension.ofTag "../x").fileName := by
      rintro (hlong | hbig)
      · exact absurd hlong (by decide +kernel)
      · exact absurd hbig (by decide +kernel)
    exact @HasRoom.intro _ _ _ ["tmp"] 0 hplace (by decide) admits accepted (by decide +kernel)
  obtain ⟨hrun, -, hserved⟩ := carries_text_verbatim
    (.scripted [.bundle (· ++ "done()"), .finish (.ok ⟨[⟨.error, "e"⟩, ⟨.warning, ""⟩]⟩)])
    (· ++ "done()") ⟨[⟨.error, "e"⟩, ⟨.warning, ""⟩]⟩ (.forProject ⟨"/tmp"⟩) oddSource "../x" .none
    crowdedWorld (by decide) ⟨[], [], rfl, rfl, by simp⟩ hnames
  exact ⟨room, hrun (hserved room rfl (carries_scripted _ _))⟩

end Compilation

end SnippetForge
