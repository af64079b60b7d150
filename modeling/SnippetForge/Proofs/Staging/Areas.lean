import SnippetForge.Proofs.Disk.Edits
import SnippetForge.Proofs.Text.Bytes
import SnippetForge.Staging

/-!
# Staging areas on a disk

What making, using and closing a staging area do to the disk. An area is made at a free place, and
its path leads there; the entry is written directly below that place; closing removes exactly what
the path of the area leads to when it is closed, whatever has become of the directory meanwhile.
-/

namespace SnippetForge

namespace EntryExtension

/-- An extension has letters and digits only. -/
lemma isAlphanum_ofTag (tag : String) : ∀ c ∈ (ofTag tag).extension.toList, c.isAlphanum = true := by
  unfold ofTag
  split
  · next language _ => cases language <;> simp [Language.extension]
  · split
    · next husable =>
      simp only [isUsable, Bool.and_eq_true, List.all_eq_true] at husable
      exact husable.2
    · simp [standard]

lemma toList_fileName (e : EntryExtension) :
    e.fileName.toList = "index.".toList ++ e.extension.toList := by
  simp [fileName]

/-- The entry file has a proper name. -/
lemma isProper_fileName (tag : String) : IsProper (ofTag tag).fileName := by
  have hslash : '/' ∉ (ofTag tag).extension.toList := fun h =>
    absurd (isAlphanum_ofTag tag _ h) (by decide)
  refine ⟨?_, ?_, ?_, ?_⟩
  · rw [ne_eq, ← String.toList_inj, toList_fileName]
    simp
  · rw [toList_fileName, List.mem_append, not_or]
    exact ⟨by decide, hslash⟩
  · rw [ne_eq, ← String.toList_inj, toList_fileName]
    simp
  · rw [ne_eq, ← String.toList_inj, toList_fileName]
    simp

end EntryExtension

namespace StagingArea

variable {d : Disk}

/-! ### Paths -/

/-- The directory of an area has a proper name. -/
lemma isProper_directoryName {random : String} (h : '/' ∉ random.toList) :
    IsProper (directoryName random) := by
  have htext : (directoryName random).toList = nameStart.toList ++ random.toList := by
    simp [directoryName]
  refine ⟨?_, ?_, ?_, ?_⟩
  · rw [ne_eq, ← String.toList_inj, htext]
    simp [nameStart]
  · rw [htext, List.mem_append, not_or]
    exact ⟨by decide, h⟩
  · rw [ne_eq, ← String.toList_inj, htext]
    simp [nameStart]
  · rw [ne_eq, ← String.toList_inj, htext]
    simp [nameStart]

lemma path_below (parent : Place) (random : String) :
    (below parent random).path = parent.path.child (directoryName random) := rfl

lemma isAbsolute_below (parent : Place) {random : String} (h : '/' ∉ random.toList) :
    (below parent random).path.isAbsolute = true := by
  rw [path_below, Path.isAbsolute_child (isProper_directoryName h).slashless
    (Place.text_path_ne_empty parent)]
  exact Place.isAbsolute_path parent

lemma isProper_outputName : IsProper outputName := by decide

lemma isProper_bundleName : IsProper bundleName := by decide

/-- The entry is not where bundles go. -/
lemma fileName_ne_outputName (tag : String) : (EntryExtension.ofTag tag).fileName ≠ outputName := by
  intro h
  have hlists := congrArg String.toList h
  rw [EntryExtension.toList_fileName] at hlists
  have hfirst := congrArg List.head? hlists
  simp [outputName] at hfirst

/-! ### Making -/

/-- The path of an area leads to a directory at a place, all links followed. -/
def LeadsTo (d : Disk) (area : StagingArea) (place : Place) : Prop :=
  ∃ used left, Disk.maxLinks = used + left ∧
    Disk.Arrives d used [] .directory area.path.names place .directory

/-- The path of an area leads to its place after a node has been added. -/
lemma LeadsTo.add {area : StagingArea} {place q : Place} {node : Node} {mode : Mode}
    (h : LeadsTo d area place) (hfree : d.entry? q = none) :
    LeadsTo (d.add q node mode) area place := by
  obtain ⟨used, left, hlinks, harr⟩ := h
  exact ⟨used, left, hlinks, harr.mono fun _ _ => Disk.node?_add_of_node? hfree⟩

/-- An area that is made is the one of its name. -/
lemma attempt_eq_made {cwd parent : Place} {random : String} {area : StagingArea} {disk : Disk}
    (h : attempt d cwd parent random = .made area disk) :
    area = below parent random ∧ d.makeDirectory cwd area.path Mode.secluded = .ok disk := by
  unfold attempt at h
  simp only at h
  split at h
  · next hmake =>
    cases h
    exact ⟨rfl, hmake⟩
  · cases h
  · cases h

/-- An area is made at a free place that its path leads to from then on. -/
lemma leadsTo_of_made {cwd parent : Place} {random : String} {disk : Disk}
    (hrandom : '/' ∉ random.toList)
    (h : d.makeDirectory cwd (below parent random).path Mode.secluded = .ok disk) :
    ∃ place, d.entry? place = none ∧ disk = d.add place .directory Mode.secluded ∧
      LeadsTo disk (below parent random) place := by
  unfold Disk.makeDirectory Disk.make at h
  split at h
  · next place hfree =>
    cases h
    have hname := isProper_directoryName hrandom
    obtain ⟨used, left, above, hlinks, hsought, harr, rfl, hnone⟩ :=
      Disk.freePlace_child hname hfree
    refine ⟨above ++ [directoryName random], hnone, rfl, used, left, hlinks, ?_⟩
    have hstart : Disk.startOf cwd (parent.path.child (directoryName random)) = [] := by
      unfold Disk.startOf
      rw [← path_below, isAbsolute_below parent hrandom]
      rfl
    rw [hstart] at harr
    rw [path_below, Path.names_child _ hname.slashless hname.ne_empty]
    refine (harr.mono fun _ _ => Disk.node?_add_of_node? hnone).append_node hsought ?_ rfl
    rw [Disk.node?, Disk.entry?_add hnone, if_pos rfl]
    rfl
  · cases h

/-! ### Trying names -/

section Search

-- Left reducible, an attempt is unfolded down to the bytes of its path wherever a search is.
attribute [local irreducible] attempt

lemma search_succ (d : Disk) (cwd parent : Place) (names : Nat → String) (tries drawn : Nat) :
    search d cwd parent names (tries + 1) drawn =
      match attempt d cwd parent (names drawn) with
      | .made area disk => (drawn + 1, .ok (area, disk))
      | .taken => search d cwd parent names tries (drawn + 1)
      | .failed fault => (drawn + 1, .error fault) := rfl

/-- A search that makes an area has tried its name. -/
lemma exists_attempt_of_search {cwd parent : Place} {names : Nat → String}
    {tries drawn drawn' : Nat} {area : StagingArea} {disk : Disk}
    (h : search d cwd parent names tries drawn = (drawn', .ok (area, disk))) :
    ∃ n, attempt d cwd parent (names n) = .made area disk := by
  induction tries generalizing drawn with
  | zero => cases h
  | succ tries ih =>
    rw [search_succ] at h
    cases hattempt : attempt d cwd parent (names drawn) with
    | made area' disk' =>
      rw [hattempt] at h
      cases h
      exact ⟨drawn, hattempt⟩
    | taken =>
      rw [hattempt] at h
      exact ih h
    | failed fault =>
      rw [hattempt] at h
      cases h

/-- An area that cannot be made is a failure to stage that names the staging root. -/
lemma create_cases (d : Disk) (cwd : Place) (root : Path) (names : Nat → String) (drawn : Nat) :
    (∃ drawn' fault, create d cwd root names drawn = (drawn', .error (.staging root fault))) ∨
      ∃ drawn' area disk, create d cwd root names drawn = (drawn', .ok (area, disk)) := by
  unfold create parentOf
  cases d.canonical cwd root with
  | error fault => exact .inl ⟨drawn, fault, rfl⟩
  | ok parent =>
    simp only
    rcases search d cwd parent names maxTries drawn with ⟨drawn', _ | ⟨area, disk⟩⟩
    · exact .inl ⟨drawn', _, rfl⟩
    · exact .inr ⟨drawn', area, disk, rfl⟩

/-- An area that is made is made in the place that its root means. -/
lemma exists_attempt_of_create {cwd : Place} {root : Path} {names : Nat → String}
    {drawn drawn' : Nat} {area : StagingArea} {disk : Disk}
    (h : create d cwd root names drawn = (drawn', .ok (area, disk))) :
    ∃ parent n, parentOf d cwd root = .ok parent ∧
      attempt d cwd parent (names n) = .made area disk := by
  unfold create at h
  cases hparent : parentOf d cwd root with
  | error failure =>
    rw [hparent] at h
    cases h
  | ok parent =>
    rw [hparent] at h
    simp only at h
    cases hsearch : search d cwd parent names maxTries drawn with
    | mk drawn'' made =>
      cases made with
      | error fault =>
        rw [hsearch] at h
        cases h
      | ok made =>
        rw [hsearch] at h
        cases h
        obtain ⟨n, hattempt⟩ := exists_attempt_of_search hsearch
        exact ⟨parent, n, rfl, hattempt⟩

/-- An area that is made is one below the place of its root. -/
lemma exists_below_of_create {cwd : Place} {root : Path} {names : Nat → String}
    {drawn drawn' : Nat} {area : StagingArea} {disk : Disk}
    (h : create d cwd root names drawn = (drawn', .ok (area, disk))) :
    ∃ parent n, area = below parent (names n) := by
  obtain ⟨parent, n, -, hattempt⟩ := exists_attempt_of_create h
  exact ⟨parent, n, (attempt_eq_made hattempt).1⟩

end Search

/-! ### Using -/

/-- An entry that cannot be written is a failure to stage that names it. -/
lemma writeEntry_cases (area : StagingArea) (d : Disk) (cwd : Place) (e : EntryExtension)
    (source : String) :
    (∃ fault, area.writeEntry d cwd e source = .error (.staging (area.entryPath e) fault)) ∨
      ∃ disk, area.writeEntry d cwd e source = .ok (area.entryPath e, disk) := by
  unfold writeEntry
  cases d.writeFile cwd (area.entryPath e) source.toUTF8 with
  | ok disk => exact .inr ⟨disk, rfl⟩
  | error fault => exact .inl ⟨fault, rfl⟩

/-- What stands in an area is looked for from the root. -/
lemma startOf_child {area : StagingArea} {name : String} (hname : IsProper name)
    (habs : area.path.isAbsolute = true) (cwd : Place) :
    Disk.startOf cwd (area.path.child name) = [] := by
  have hne : area.path.text ≠ "" := by
    intro hempty
    simp [Path.isAbsolute, hempty] at habs
  unfold Disk.startOf
  rw [Path.isAbsolute_child hname.slashless hne, habs]
  rfl

lemma eq_entryPath_of_writeEntry {area : StagingArea} {cwd : Place} {e : EntryExtension}
    {source : String} {p : Path} {disk : Disk}
    (h : area.writeEntry d cwd e source = .ok (p, disk)) : p = area.entryPath e := by
  rcases writeEntry_cases area d cwd e source with ⟨fault, unwritten⟩ | ⟨disk', written⟩
  · rw [h] at unwritten
    cases unwritten
  · rw [h, Except.ok.injEq, Prod.mk.injEq] at written
    exact written.1

/-- An entry that can be written has a path that leads somewhere. -/
lemma exists_locate_of_writeEntry {area : StagingArea} {cwd : Place} {e : EntryExtension}
    {source : String} {p : Path} {disk : Disk}
    (h : area.writeEntry d cwd e source = .ok (p, disk)) :
    ∃ spot, d.locate cwd true (area.path.child e.fileName) = .ok spot := by
  unfold writeEntry entryPath Disk.writeFile Disk.updateFile at h
  cases hlocate : d.locate cwd true (area.path.child e.fileName) with
  | error fault => simp [hlocate] at h
  | ok spot => exact ⟨spot, rfl⟩

/-- The entry is written directly below the place of an area. -/
lemma writeEntry_eq_ok {area : StagingArea} {place cwd : Place} {e : EntryExtension}
    {source : String} {p : Path} {disk : Disk} (hname : IsProper e.fileName)
    (habs : area.path.isAbsolute = true)
    (hleads : LeadsTo d area place) (hfree : d.entry? (place ++ [e.fileName]) = none)
    (h : area.writeEntry d cwd e source = .ok (p, disk)) :
    disk = d.add (place ++ [e.fileName]) (.file source.toUTF8) Mode.file := by
  obtain ⟨used, left, hlinks, harr⟩ := hleads
  rw [← startOf_child hname habs cwd] at harr
  have hspot : ∀ {spot}, d.locate cwd true (area.path.child e.fileName) = .ok spot →
      spot = .free place e.fileName :=
    Disk.locate_child_missing hname hlinks harr (Disk.node?_eq_none_iff.mpr hfree)
  obtain ⟨spot, hlocate⟩ := exists_locate_of_writeEntry h
  rw [hspot hlocate] at hlocate
  unfold writeEntry entryPath Disk.writeFile Disk.updateFile at h
  rw [hlocate] at h
  simp only at h
  split at h
  · next heq =>
    cases h
    split at heq
    · exact (Except.ok.inj heq).symm
    · cases heq
  · cases h

/-- The entry that has been written holds the source. -/
lemma readText_of_writeEntry {area : StagingArea} {place cwd : Place} {e : EntryExtension}
    {source : String} {p : Path} {disk : Disk} (hname : IsProper e.fileName)
    (habs : area.path.isAbsolute = true) (hleads : LeadsTo d area place)
    (hfree : d.entry? (place ++ [e.fileName]) = none)
    (h : area.writeEntry d cwd e source = .ok (p, disk)) (cwd' : Place) :
    disk.readText cwd' (area.entryPath e) = .ok source := by
  have hdisk := writeEntry_eq_ok hname habs hleads hfree h
  obtain ⟨spot, hlocate⟩ := exists_locate_of_writeEntry h
  obtain ⟨-, -, -, -, hsought, -, -⟩ := Disk.exists_arrives_child hname hlocate
  have hentry : disk.entry? (place ++ [e.fileName])
      = some (d.newEntry (.file source.toUTF8) Mode.file) := by
    rw [hdisk, Disk.entry?_add hfree, if_pos rfl]
  have hnode : disk.node? (place ++ [e.fileName]) = some (.file source.toUTF8) := by
    rw [Disk.node?, hentry]
    rfl
  have hleads' : LeadsTo disk area place := hdisk ▸ hleads.add hfree
  obtain ⟨used, left, hlinks, harr⟩ := hleads'
  rw [← startOf_child hname habs cwd'] at harr
  have hfound : disk.locate cwd' true (area.path.child e.fileName)
      = .ok (.taken (place ++ [e.fileName]) (.file source.toUTF8)) := by
    rw [Disk.locate_child hname hlinks (Disk.isSound_of_locate hlocate) harr,
      Disk.resolve_node hsought hnode rfl, Disk.resolve_nil]
  have hreadable : Mode.file.isReadable = true := by decide
  have htext : Disk.textOf source.toUTF8 = .ok source := by
    rw [Disk.textOf, Text.fromUTF8?_toUTF8]
  unfold Disk.readText Disk.readBytes Disk.locateEntry Disk.locateNode entryPath
  simp only [hfound, hentry, Option.getD_some, Disk.newEntry, hreadable, if_true, htext]

/-! ### Closing -/

/-- An area that cannot be removed is a failure to clean up that names it. -/
lemma close_cases (area : StagingArea) (d : Disk) (cwd : Place) :
    (∃ fault, area.close d cwd = .error (.cleanup area.path fault)) ∨
      ∃ disk, area.close d cwd = .ok disk := by
  unfold close
  cases d.removeTree cwd area.path with
  | ok disk => exact .inr ⟨disk, rfl⟩
  | error fault => exact .inl ⟨_, rfl⟩

/-- The tree that the path of an area leads to is cut out of a disk, a link there as a link, unless
there is none. -/
inductive Removes (area : StagingArea) (d : Disk) : Disk → Prop
  | nothing {cwd : Place} (h : d.isDirectory cwd area.path = false) : Removes area d d
  | tree {cwd root : Place} {node : Node}
      (h : d.locateNode cwd false area.path = .ok (root, node))
      (kind : node = .directory ∨ ∃ target, node = .link target) : Removes area d (d.cut root)

/-- An area that is closed is removed, and then nothing is left at its path. -/
lemma removes_of_close_ok {parent cwd : Place} {random : String} {d' : Disk}
    (hrandom : '/' ∉ random.toList) (h : (below parent random).close d cwd = .ok d') :
    Removes (below parent random) d d' ∧
      ∀ cwd', d'.linkOrNode? cwd' (below parent random).path = none := by
  have hname := isProper_directoryName hrandom
  unfold close at h
  cases hremove : d.removeTree cwd (below parent random).path with
  | error fault => simp [hremove] at h
  | ok disk =>
    rw [hremove] at h
    cases h
    have hnothing := Disk.linkOrNode?_of_removeTree_ok hname hremove
    obtain ⟨root, node, -, hlocate, kind, rfl⟩ := Disk.removeTree_child_ok hname hremove
    refine ⟨.tree hlocate kind, fun cwd' => ?_⟩
    rw [Disk.linkOrNode?_of_absolute (isAbsolute_below parent hrandom) cwd' cwd]
    exact hnothing

/-- The path of an area that cannot be closed leads to no directory. -/
lemma isDirectory_of_close_error {parent cwd : Place} {random : String} {failure : Failure}
    (hrandom : '/' ∉ random.toList) (h : (below parent random).close d cwd = .error failure)
    (cwd' : Place) : d.isDirectory cwd' (below parent random).path = false := by
  have hname := isProper_directoryName hrandom
  unfold close at h
  cases hremove : d.removeTree cwd (below parent random).path with
  | ok disk => simp [hremove] at h
  | error fault =>
    rw [Disk.isDirectory_of_absolute (isAbsolute_below parent hrandom) cwd' cwd]
    exact Disk.isDirectory_of_removeTree_error hname hremove

end StagingArea

end SnippetForge
