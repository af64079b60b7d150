import SnippetForge.Proofs.Staging.Naming
import SnippetForge.World

/-!
# Worlds that host an area

A world *hosts* an area while the directory of the area is in its place, and no node below it has a
name elsewhere. `Changes` is the frame of whatever is done meanwhile: it names the region of the
disk that has changed, and promises that the world stays orderly. A world keeps hosting an area
through changes of other regions, and through changes below the area.

What a compilation itself does to its area is the same for all areas of one directory: the entry is
written unless its path is too long, and closing removes the tree of the area.
-/

namespace SnippetForge

namespace World

/-! ### Orderly worlds -/

/-- A world whose disk is a tree, in which nothing has been cancelled and no named pipe has had a
writer, and which proposes proper random parts. -/
structure IsOrderly (w : World) : Prop where
  tree : w.disk.WellFormed
  standing : w.disk.IsStanding w.cwd
  tokens : ∀ state ∈ w.tokens.states, state.fired = false
  pipes : ∀ pipe ∈ w.pipes, ∀ id, pipe.id = .named id → pipe.connected = false
  names : ∀ n, StagingArea.IsRandomPart (w.names n)

/-- An orderly world has become another one by changes of a region of its disk. -/
structure Changes (region : Set Place) (w w' : World) : Prop where
  orderly : w'.IsOrderly
  cwd : w'.cwd = w.cwd
  disk : Disk.DiffersWithin region w.disk w'.disk

/-- Putting another disk in place changes the region in which it differs, unless the current
directory is in there. -/
lemma Changes.withDisk {region : Set Place} {w : World} {disk : Disk} (orderly : w.IsOrderly)
    (tree : disk.WellFormed) (differs : Disk.DiffersWithin region w.disk disk)
    (apart : ∀ q, q <+: w.cwd → q ∉ region) : Changes region w (w.withDisk disk) := by
  have hkept : ∀ q, q <+: w.cwd → disk.entry? q = w.disk.entry? q :=
    fun q hq => differs.outside q (apart q hq)
  have hcwd : (w.withDisk disk).cwd = w.cwd :=
    Disk.follow_eq orderly.tree tree orderly.standing hkept
  refine ⟨⟨tree, ?_, orderly.tokens, orderly.pipes, orderly.names⟩, hcwd, differs⟩
  rw [hcwd]
  exact orderly.standing.of_kept hkept

/-- What is changed next in the same region is a change of that region, too. -/
lemma Changes.trans {region : Set Place} {w w' w'' : World} (h : Changes region w w')
    (h' : Changes region w' w'') : Changes region w w'' :=
  ⟨h'.orderly, h'.cwd.trans h.cwd,
    ⟨fun q hq => (h'.disk.outside q hq).trans (h.disk.outside q hq), h'.disk.sealed⟩⟩

/-- What is not on the disk may change without any care, as long as no token is fired and no named
pipe gets a writer. -/
lemma IsOrderly.changes {w w' : World} (orderly : w.IsOrderly) (disk : w'.disk = w.disk)
    (cwd : w'.cwd = w.cwd) (names : w'.names = w.names)
    (tokens : ∀ state ∈ w'.tokens.states, state.fired = false)
    (pipes : ∀ pipe ∈ w'.pipes, ∀ id, pipe.id = .named id → pipe.connected = false) :
    Changes ∅ w w' := by
  refine ⟨⟨?_, ?_, tokens, pipes, ?_⟩, cwd, .of_eq fun q => by rw [disk]⟩
  · rw [disk]
    exact orderly.tree
  · rw [disk, cwd]
    exact orderly.standing
  · rw [names]
    exact orderly.names

/-- A change of nothing is a change of any region that is sealed. -/
lemma Changes.widen {region : Set Place} {w w' : World} (h : Changes ∅ w w')
    (hsealed : w.disk.IsSealed region) : Changes region w w' :=
  ⟨h.orderly, h.cwd, ⟨fun q _ => h.disk.outside q (Set.notMem_empty q),
    h.disk.isSealed (Set.disjoint_empty region) hsealed⟩⟩

/-- Reports, counts and calls are not on the disk. -/
lemma IsOrderly.noted {w w' : World} (orderly : w.IsOrderly) (machine : w'.toMachine = w.toMachine)
    (cwd : w'.cwd = w.cwd) (names : w'.names = w.names) (tokens : w'.tokens = w.tokens) :
    Changes ∅ w w' := by
  refine orderly.changes (by rw [machine]) cwd names ?_ ?_
  · rw [tokens]
    exact orderly.tokens
  · rw [machine]
    exact orderly.pipes

/-- The passing of time changes nothing on the disk. -/
lemma IsOrderly.tick {w : World} (orderly : w.IsOrderly) (span : Nat) :
    Changes ∅ w { w with toMachine := w.toMachine.tick span } := by
  obtain ⟨tree, standing, tokens, pipes, names⟩ := orderly
  refine ⟨⟨?_, standing, tokens, pipes, names⟩, rfl, .of_eq fun q => rfl⟩
  exact ⟨tree.distinct, tree.proper, tree.rooted, tree.numbered, tree.unused, tree.shared⟩

end World

namespace StagingArea

open World

variable {w w' : World} {parent : Place} {random : String}

/-- A world hosts the area of a name below a place. -/
structure Hosts (w : World) (parent : Place) (random : String) : Prop where
  orderly : w.IsOrderly
  lettered : IsRandomPart random
  made : ∃ e, w.disk.entry? (placeBelow parent random) = some e ∧ e.node = .directory ∧
    e.mode = Mode.secluded
  sought : ∀ name ∈ placeBelow parent random, Disk.IsSought name
  sound : Disk.IsSound (below parent random).path
  settled : Place.running.isPrefixOf parent = false
  sealed : w.disk.IsSealed (placeBelow parent random).tree
  apart : ¬placeBelow parent random <+: w.cwd

/-- What lies below an area of a world. -/
def contentOf (w : World) (parent : Place) (random : String) : Content :=
  w.disk.contentBelow (placeBelow parent random)

lemma Hosts.node?_eq (h : Hosts w parent random) :
    w.disk.node? (placeBelow parent random) = some .directory := by
  obtain ⟨e, he, hnode, -⟩ := h.made
  exact Disk.node?_eq_some_iff.mpr ⟨e, he, hnode⟩

lemma Hosts.proper (h : Hosts w parent random) : ∀ n ∈ parent, IsProper n :=
  fun _ hn => h.orderly.tree.isProper h.node?_eq (List.mem_append_left _ hn)

/-- Nothing in an area is in the directory of what runs. -/
lemma Hosts.settled_append (h : Hosts w parent random) (rel : Place) :
    Place.running.isPrefixOf (placeBelow parent random ++ rel) = false := by
  have hsettled := h.settled
  unfold placeBelow Place.running at *
  cases parent with
  | nil =>
    have hne : directoryName random ≠ "proc" := by
      intro heq
      have hsize := h.lettered.size_directoryName
      rw [heq] at hsize
      exact absurd hsize (by decide)
    simp [List.isPrefixOf_cons_cons, Ne.symm hne]
  | cons first rest => simpa [List.isPrefixOf_cons_cons] using hsettled

/-- The path of an area leads to its place. -/
lemma Hosts.arrives (h : Hosts w parent random) :
    Disk.Arrives w.disk 0 [] .directory (placeBelow parent random) (placeBelow parent random)
      .directory :=
  h.orderly.tree.arrives h.sought h.node?_eq

/-- A current directory is not in an area that is hosted. -/
lemma Hosts.apart_tree (h : Hosts w parent random) :
    ∀ q, q <+: w.cwd → q ∉ (placeBelow parent random).tree :=
  fun _ hq hin => h.apart (hin.trans hq)

/-- An area is still hosted after changes elsewhere, and what is below it is what it was. -/
lemma Hosts.of_changes {region : Set Place} (h : Hosts w parent random)
    (changes : Changes region w w')
    (disjoint : Disjoint (placeBelow parent random).tree region) :
    Hosts w' parent random ∧ contentOf w' parent random = contentOf w parent random := by
  refine ⟨{ h with
    orderly := changes.orderly, made := ?_, sealed := changes.disk.isSealed disjoint h.sealed
    apart := ?_ }, changes.disk.contentBelow_eq disjoint⟩
  · obtain ⟨e, he, hrest⟩ := h.made
    refine ⟨e, ?_, hrest⟩
    rw [changes.disk.outside _ (Set.disjoint_left.mp disjoint List.prefix_rfl)]
    exact he
  · rw [changes.cwd]
    exact h.apart

/-- What is done below an area changes nothing else, and leaves its directory as it is. -/
structure Keeps (parent : Place) (random : String) (w w' : World) : Prop extends
    Changes (placeBelow parent random).tree w w' where
  root : w'.disk.entry? (placeBelow parent random) = w.disk.entry? (placeBelow parent random)

lemma Hosts.of_keeps (h : Hosts w parent random) (keeps : Keeps parent random w w') :
    Hosts w' parent random where
  orderly := keeps.orderly
  lettered := h.lettered
  made := by
    rw [keeps.root]
    exact h.made
  sought := h.sought
  sound := h.sound
  settled := h.settled
  sealed := keeps.disk.sealed
  apart := by
    rw [keeps.cwd]
    exact h.apart

/-- Where nothing changes, an area is kept. -/
lemma Hosts.keeps (h : Hosts w parent random) (changes : Changes ∅ w w') :
    Keeps parent random w w' :=
  ⟨changes.widen h.sealed, changes.disk.outside _ (Set.notMem_empty _)⟩

lemma Keeps.trans {w'' : World} (h : Keeps parent random w w') (h' : Keeps parent random w' w'') :
    Keeps parent random w w'' :=
  ⟨h.toChanges.trans h'.toChanges, h'.root.trans h.root⟩

/-- What is put at a free place below an area is there, and nothing else has changed. -/
lemma Hosts.keeps_add (h : Hosts w parent random) {above : Place} {name : String}
    (hfree : w.disk.entry? (placeBelow parent random ++ (above ++ [name])) = none)
    (habove : w.disk.node? (placeBelow parent random ++ above) = some .directory)
    (hname : IsProper name) (node : Node) (mode : Mode) :
    let added := w.withDisk (w.disk.add (placeBelow parent random ++ (above ++ [name])) node mode)
    Keeps parent random w added ∧ ∀ rel, contentOf added parent random rel =
      if rel = above ++ [name] then some (w.disk.newEntry node mode)
      else contentOf w parent random rel := by
  intro added
  have hplace : placeBelow parent random ++ above ++ [name] =
      placeBelow parent random ++ (above ++ [name]) := List.append_assoc ..
  have htree := h.orderly.tree.add (hplace ▸ hfree) habove hname node mode
  rw [hplace] at htree
  have hdiffers := Disk.DiffersWithin.add h.orderly.tree hfree
    (Place.mem_tree.mpr (List.prefix_append _ _)) h.sealed node mode
  refine ⟨⟨Changes.withDisk h.orderly htree hdiffers h.apart_tree, ?_⟩, fun rel => ?_⟩
  · exact (Disk.entry?_add hfree node mode _).trans (if_neg (by simp))
  · by_cases hrel : rel = []
    · subst hrel
      rw [if_neg (by simp)]
      rfl
    · refine (Disk.contentBelow_of_ne_nil hrel).trans ((Disk.entry?_add hfree node mode _).trans ?_)
      by_cases heq : rel = above ++ [name]
      · rw [if_pos (by rw [heq]), if_pos heq]
      · rw [if_neg (by simpa using heq), if_neg heq]
        exact (Disk.contentBelow_of_ne_nil hrel).symm

/-- A file below an area that is written over has other bytes, and nothing else has changed, as long
as it has no other name. -/
lemma Hosts.keeps_rewrite (h : Hosts w parent random) {rel : Place} {e : Entry} {old : ByteArray}
    (he : contentOf w parent random rel = some e) (hfile : e.node = .file old)
    (single : ∀ rel' e', contentOf w parent random rel' = some e' → e'.id = e.id → rel' = rel)
    (content : ByteArray) :
    let rewritten := w.withDisk (w.disk.rewrite e.id content)
    Keeps parent random w rewritten ∧ ∀ rel', contentOf rewritten parent random rel' =
      if rel' = rel then some { e with node := .file content, time := w.disk.stamp }
      else contentOf w parent random rel' := by
  intro rewritten
  have hrel : rel ≠ [] := by
    rintro rfl
    cases he
  have hentry : w.disk.entry? (placeBelow parent random ++ rel) = some e :=
    (Disk.contentBelow_of_ne_nil hrel).symm.trans he
  have hplace : placeBelow parent random ++ rel ≠ [] := by simp [hrel]
  have hid : e.id ≠ Entry.root.id :=
    (h.orderly.tree.numbered _ (Disk.mem_entries hplace hentry)).1.ne'
  have hfiles : ∀ {q a}, w.disk.entry? q = some a → a.id = e.id → a.node = .file old := by
    intro q a ha heq
    rw [(h.orderly.tree.eq_of_id ha hentry heq).1]
    exact hfile
  have htree : (w.disk.rewrite e.id content).WellFormed := by
    refine h.orderly.tree.change hid (fun _ => rfl) fun q a ha heq => ?_
    simp [hfiles ha heq]
  have hdiffers : Disk.DiffersWithin (placeBelow parent random).tree w.disk
      (w.disk.rewrite e.id content) :=
    .change hentry hid (Place.mem_tree.mpr (List.prefix_append _ _)) h.sealed fun _ => rfl
  refine ⟨⟨Changes.withDisk h.orderly htree hdiffers h.apart_tree, ?_⟩, fun rel' => ?_⟩
  · obtain ⟨root, hroot, hdirectory, -⟩ := h.made
    refine (Disk.entry?_change hid _ _).trans ?_
    rw [hroot, Option.map_some, if_neg]
    intro heq
    rw [hfiles hroot heq] at hdirectory
    cases hdirectory
  · by_cases hnil : rel' = []
    · subst hnil
      rw [if_neg hrel.symm]
      rfl
    refine (Disk.contentBelow_of_ne_nil hnil).trans ((Disk.entry?_change hid _ _).trans ?_)
    by_cases heq : rel' = rel
    · subst heq
      rw [hentry, Option.map_some, if_pos rfl, if_pos rfl]
    · rw [if_neg heq, show contentOf w parent random rel' = _ from Disk.contentBelow_of_ne_nil hnil]
      cases ha : w.disk.entry? (placeBelow parent random ++ rel') with
      | none => rfl
      | some a =>
        have hne : a.id ≠ e.id := fun hsame =>
          heq (single rel' a ((Disk.contentBelow_of_ne_nil hnil).trans ha) hsame)
        rw [Option.map_some, if_neg hne]

/-! ### Making an area -/

/-- Where an area can be made, making it changes nothing else, and the world hosts it from then on,
with nothing in it. -/
lemma Admits.hosts (orderly : w.IsOrderly) (lettered : IsRandomPart random)
    (admits : Admits w.disk parent random) :
    let made := w.withDisk (w.disk.add (placeBelow parent random) .directory Mode.secluded)
    Changes (placeBelow parent random).tree w made ∧ Hosts made parent random ∧
      ∀ rel, contentOf made parent random rel = none := by
  intro made
  have hproper : ∀ n ∈ placeBelow parent random, IsProper n := by
    intro n hn
    rcases List.mem_append.mp hn with hn | hn
    · exact orderly.tree.isProper admits.above hn
    · rw [List.mem_singleton.mp hn]
      exact lettered.isProper
  have hapart : ¬placeBelow parent random <+: w.cwd :=
    orderly.standing.not_prefix orderly.tree admits.free hproper
  have hbelow : ∀ rel, w.disk.entry? (placeBelow parent random ++ rel) = none :=
    orderly.tree.entry?_below admits.free
  have hsealed : w.disk.IsSealed (placeBelow parent random).tree := by
    rintro q q' e e' ⟨rel, rfl⟩ - he
    rw [hbelow] at he
    cases he
  have htree := orderly.tree.add admits.free admits.above lettered.isProper .directory Mode.secluded
  have hdiffers := Disk.DiffersWithin.add orderly.tree admits.free (List.prefix_rfl) hsealed
    .directory Mode.secluded
  have hchanges := Changes.withDisk orderly htree hdiffers fun q hq hin => hapart (hin.trans hq)
  refine ⟨hchanges, ⟨hchanges.orderly, lettered, ⟨w.disk.newEntry .directory Mode.secluded, ?_, rfl,
    rfl⟩, admits.sought, admits.sound, admits.settled, hdiffers.sealed, ?_⟩, fun rel => ?_⟩
  · exact (Disk.entry?_add admits.free _ _ _).trans (if_pos rfl)
  · rw [show made.cwd = w.cwd from hchanges.cwd]
    exact hapart
  · by_cases hrel : rel = []
    · exact if_pos hrel
    · refine (Disk.contentBelow_of_ne_nil hrel).trans ?_
      refine (Disk.entry?_add admits.free _ _ _).trans ?_
      rw [if_neg (by simpa using hrel)]
      exact hbelow rel

/-! ### Paths below an area -/

/-- Whether the path of something below an area is too long for the system. -/
def IsTooLong (parent : Place) (random : String) (rel : Place) : Prop :=
  Disk.maxPath < (below parent random).path.text.utf8ByteSize + (rel.map (·.utf8ByteSize + 1)).sum

instance (rel : Place) : Decidable (IsTooLong parent random rel) :=
  inferInstanceAs (Decidable (_ < _))

/-- Where paths get too long does not depend on the name of the area. -/
lemma isTooLong_iff {random' : String} (h : IsRandomPart random) (h' : IsRandomPart random')
    {rel : Place} : IsTooLong parent random' rel ↔ IsTooLong parent random rel := by
  unfold IsTooLong
  rw [size_below h h']

/-- What is too far below an area is found on no disk. -/
lemma Hosts.locate_of_isTooLong (h : Hosts w parent random) {rel : Place}
    (hrel : ∀ n ∈ rel, IsProper n) (hnul : rel.any Path.hasNul = false)
    (hlong : IsTooLong parent random rel) (d : Disk) (followLast : Bool) (cwd : Place) :
    d.locate cwd followLast ((below parent random).path.descend rel) =
      .error (.system .nameTooLong) := by
  have hsize := Path.size_descend parent.path h.lettered.isProper hrel
  rw [← path_below] at hsize
  refine Disk.locate_of_long ?_ (hsize ▸ hlong) cwd
  rw [Path.hasNul_descend _ hrel, hnul, Bool.or_false]
  exact ((Disk.isSound_iff (below_path_ne_empty h.lettered)).mp h.sound).1

/-- The path of something below an area is followed from the place of the area. -/
lemma Hosts.locate_descend (h : Hosts w parent random) {rel : Place} (hne : rel ≠ [])
    (hrel : ∀ n ∈ rel, IsProper n) (hnul : rel.any Path.hasNul = false)
    (hshort : ¬IsTooLong parent random rel) (followLast : Bool) (cwd : Place) :
    w.disk.locate cwd followLast ((below parent random).path.descend rel) =
      match Disk.resolve w.disk followLast Disk.maxLinks (placeBelow parent random) .directory rel
        with
      | .ok spot => .ok spot
      | .error error => .error (.system error) := by
  have hsize := Path.size_descend parent.path h.lettered.isProper hrel
  rw [← path_below] at hsize
  have hclean : Path.hasNul ((below parent random).path.descend rel).text = false := by
    rw [Path.hasNul_descend _ hrel, hnul, Bool.or_false]
    exact ((Disk.isSound_iff (below_path_ne_empty h.lettered)).mp h.sound).1
  have habs := Path.isAbsolute_descend hrel (isAbsolute_below parent h.lettered.slashless)
  have hempty : ((below parent random).path.descend rel).text ≠ "" := by
    intro hempty
    simp [Path.isAbsolute, hempty] at habs
  have hsound : Disk.IsSound ((below parent random).path.descend rel) := by
    refine (Disk.isSound_iff hempty).mpr ⟨hclean, ?_⟩
    rw [hsize]
    exact Nat.not_lt.mp hshort
  have hlocate := @Disk.locate_of_sound w.disk followLast _ hsound cwd
  rw [Disk.startOf, if_pos habs, Path.walkNames_descend _ hrel hne,
    names_below h.proper h.lettered, ← Nat.zero_add Disk.maxLinks,
    h.arrives.resolve_append fun hnil => absurd hnil hne] at hlocate
  exact hlocate

/-! ### Writing the entry and closing -/

/-- Whether nothing of a name can be put into an area because its path or the name is too long. -/
def IsRefused (parent : Place) (random name : String) : Prop :=
  IsTooLong parent random [name] ∨ Disk.maxName < name.utf8ByteSize

lemma isRefused_iff {random' name : String} (h : IsRandomPart random) (h' : IsRandomPart random') :
    IsRefused parent random' name ↔ IsRefused parent random name := by
  unfold IsRefused
  rw [isTooLong_iff h h']

/-- What the path of a name leads to in an area without it. -/
lemma Hosts.locate_child (h : Hosts w parent random) {name : String} (hname : IsProper name)
    (hnul : Path.hasNul name = false)
    (hfree : w.disk.entry? (placeBelow parent random ++ [name]) = none) (followLast : Bool)
    (cwd : Place) :
    (IsRefused parent random name → w.disk.locate cwd followLast
        ((below parent random).path.child name) = .error (.system .nameTooLong)) ∧
      (¬IsRefused parent random name → w.disk.locate cwd followLast
        ((below parent random).path.child name) = .ok (.free (placeBelow parent random) name)) := by
  have hproper : ∀ n ∈ [name], IsProper n := by simpa using hname
  have hclean : [name].any Path.hasNul = false := by simpa using hnul
  by_cases hlong : IsTooLong parent random [name]
  · exact ⟨fun _ => h.locate_of_isTooLong hproper hclean hlong _ followLast cwd,
      fun hr => absurd (.inl hlong) hr⟩
  have hpath := h.locate_descend (List.cons_ne_nil name []) hproper hclean hlong followLast cwd
  by_cases hbig : Disk.maxName < name.utf8ByteSize
  · rw [Disk.resolve_long hname.ne_current hname.ne_up hbig] at hpath
    exact ⟨fun _ => hpath, fun hr => absurd (.inr hbig) hr⟩
  have hsought : Disk.IsSought name := ⟨hname.ne_current, hname.ne_up, Nat.not_lt.mp hbig⟩
  have hsettled := h.settled_append []
  rw [List.append_nil] at hsettled
  rw [Disk.resolve_missing hsought (Disk.node?_eq_none_iff.mpr hfree), h.node?_eq, hsettled] at hpath
  refine ⟨fun hr => ?_, fun _ => hpath⟩
  rcases hr with hr | hr
  · exact absurd hr hlong
  · exact absurd hr hbig

/-- Its owner may change an area. -/
lemma Hosts.mayChange (h : Hosts w parent random) :
    w.disk.mayChange (placeBelow parent random) = true := by
  obtain ⟨e, he, -, hmode⟩ := h.made
  rw [Disk.mayChange, he, Option.any_some, hmode]
  decide

/-- The entry is refused if its path or its name is too long. -/
lemma Hosts.writeEntry_of_isRefused (h : Hosts w parent random) {e : EntryExtension}
    (hname : IsProper e.fileName) (hnul : Path.hasNul e.fileName = false)
    (hfree : w.disk.entry? (placeBelow parent random ++ [e.fileName]) = none)
    (refused : IsRefused parent random e.fileName) (source : String) :
    (below parent random).writeEntry w.disk w.cwd e source =
      .error (.staging ((below parent random).entryPath e) (.system .nameTooLong)) := by
  unfold writeEntry entryPath Disk.writeFile Disk.updateFile
  rw [(h.locate_child hname hnul hfree true w.cwd).1 refused]

/-- Otherwise it is written below the area. -/
lemma Hosts.writeEntry_of_not_isRefused (h : Hosts w parent random) {e : EntryExtension}
    (hname : IsProper e.fileName) (hnul : Path.hasNul e.fileName = false)
    (hfree : w.disk.entry? (placeBelow parent random ++ [e.fileName]) = none)
    (accepted : ¬IsRefused parent random e.fileName) (source : String) :
    (below parent random).writeEntry w.disk w.cwd e source =
      .ok ((below parent random).entryPath e,
        w.disk.add (placeBelow parent random ++ [e.fileName]) (.file source.toUTF8) Mode.file) := by
  unfold writeEntry entryPath Disk.writeFile Disk.updateFile
  rw [(h.locate_child hname hnul hfree true w.cwd).2 accepted]
  simp only [h.mayChange, if_true]

/-- The path of an area that is hosted leads to its place, and there is a directory. -/
lemma Hosts.locateNode_eq (h : Hosts w parent random) :
    w.disk.locateNode w.cwd false (below parent random).path =
      .ok (placeBelow parent random, .directory) := by
  have habove : w.disk.node? parent = some .directory := by
    obtain ⟨e, he, -⟩ := h.made
    exact h.orderly.tree.node?_above he
  have harr := h.orderly.tree.arrives (fun n hn => h.sought n (List.mem_append_left _ hn)) habove
  have hlocate := @locate_below_of_arrives _ w.cwd _ _ h.lettered h.proper h.sound harr
  rw [h.node?_eq] at hlocate
  exact Disk.locateNode_eq_ok_iff.mpr hlocate

/-- Closing an area that is hosted cuts out its tree. -/
lemma Hosts.close_eq (h : Hosts w parent random) :
    (below parent random).close w.disk w.cwd = .ok (w.disk.cut (placeBelow parent random)) := by
  unfold close Disk.removeTree
  rw [h.locateNode_eq]

/-- Closing an area changes nothing else, and nothing is left at its place or below it. -/
lemma Hosts.changes_close (h : Hosts w parent random) :
    Changes (placeBelow parent random).tree w
        (w.withDisk (w.disk.cut (placeBelow parent random))) ∧
      ∀ q ∈ (placeBelow parent random).tree,
        (w.withDisk (w.disk.cut (placeBelow parent random))).disk.entry? q = none := by
  have hne : placeBelow parent random ≠ [] := by simp [placeBelow]
  refine ⟨Changes.withDisk h.orderly (h.orderly.tree.cut _) (.cut hne) h.apart_tree,
    fun q hq => ?_⟩
  exact (Disk.entry?_cut hne q).trans (if_pos hq)

end StagingArea

end SnippetForge
