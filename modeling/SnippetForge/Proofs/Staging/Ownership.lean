import SnippetForge.Proofs.Staging.Entries

/-!
# Areas and their owners

Any number of areas are made, written into, closed and dropped, one operation after another. Nobody
else changes the disk, and no area is made inside one that is still open. The areas are kept in the
order in which they were made, with what has become of them.

What carries everything is where the areas are: each was made at a place that was free at the start,
in a directory that was there at the start. So none of these places is inside another one, and what
is done to one open area is no concern of the others. A place that is given up is free again, until
another area is made there.
-/

namespace SnippetForge.StagingArea

open World (IsOrderly Changes)

/-! ### What can be done -/

/-- An area with what has become of it so far. -/
structure Lease where
  area : StagingArea
  /-- What the root that was given for it meant when it was made. -/
  parent : Except Fault Place
  /-- Everything that has been written into it, each source with its extension, the latest first. -/
  written : List (String × String)
  isOpen : Bool
  deriving DecidableEq

namespace Lease

/-- An area has been made. -/
def new (area : StagingArea) (parent : Except Fault Place) : Lease :=
  ⟨area, parent, [], true⟩

/-- The place of an area. There are no links on the way to it. -/
def place (l : Lease) : Place :=
  l.area.path.names

/-- A source has been written. -/
def write (l : Lease) (extension source : String) : Lease :=
  { l with written := (extension, source) :: l.written }

/-- The area has been closed or dropped. -/
def giveUp (l : Lease) : Lease :=
  { l with isOpen := false }

end Lease

/-- A disk with all areas that have been made on it, in the order in which they were made. -/
structure Grounds where
  disk : Disk
  /-- The directory that relative paths start in. -/
  cwd : Place
  /-- How many names have been proposed. -/
  drawn : Nat
  leases : List Lease

/-- What can be done with areas. They are told by the order in which they were made. -/
inductive Operation
  | create (root : Path)
  | write (i : Nat) (tag source : String)
  | close (i : Nat)
  | drop (i : Nat)

namespace Grounds

/-- A disk on which no area has been made. -/
def start (d : Disk) (cwd : Place) : Grounds :=
  ⟨d, cwd, 0, []⟩

/-- Puts another disk in place. The current directory stays the same directory. -/
def withDisk (g : Grounds) (disk : Disk) : Grounds :=
  { g with disk := disk, cwd := g.disk.follow disk g.cwd }

/-- The area of a number, if it is open. -/
def open? (g : Grounds) (i : Nat) : Option Lease :=
  g.leases[i]?.filter (·.isOpen)

/-- Does what can be done with an open area, which may fail. With one that is not open nothing can
be done. -/
def withOpen (g : Grounds) (i : Nat) (f : Lease → Grounds × Option Failure) :
    Grounds × Option Failure :=
  match g.open? i with
  | some l => f l
  | none => (g, none)

/-- Does an operation. Gives the failure that it returns, too. -/
def perform (names : Nat → String) (g : Grounds) : Operation → Grounds × Option Failure
  | .create root =>
    match create g.disk g.cwd root names g.drawn with
    | (drawn, .ok (area, disk)) =>
      ({ g.withDisk disk with
          drawn := drawn
          leases := g.leases ++ [.new area (g.disk.canonical g.cwd root)] }, none)
    | (drawn, .error failure) => ({ g with drawn := drawn }, some failure)
  | .write i tag source => g.withOpen i fun l =>
    match l.area.writeEntry g.disk g.cwd (.ofTag tag) source with
    | .ok (_, disk) =>
      ({ g.withDisk disk with
          leases := g.leases.modify i (·.write (EntryExtension.ofTag tag).extension source) }, none)
    | .error failure => (g, some failure)
  | .close i => g.withOpen i fun l =>
    match l.area.close g.disk g.cwd with
    | .ok disk => ({ g.withDisk disk with leases := g.leases.modify i .giveUp }, none)
    | .error failure => ({ g with leases := g.leases.modify i .giveUp }, some failure)
  | .drop i => g.withOpen i fun l =>
    ({ g.withDisk (l.area.drop g.disk g.cwd) with leases := g.leases.modify i .giveUp }, none)

/-- Does one operation after another. -/
def performAll (names : Nat → String) : Grounds → List Operation → Grounds
  | g, [] => g
  | g, op :: ops => performAll names (g.perform names op).1 ops

/-- An operation makes no area inside an open one. -/
def Spares (g : Grounds) : Operation → Prop
  | .create root => ∀ place, g.disk.canonical g.cwd root = .ok place →
    ∀ l ∈ g.leases, l.isOpen = true → ¬l.place <+: place
  | _ => True

instance (g : Grounds) : DecidablePred g.Spares
  | .create root =>
    match h : g.disk.canonical g.cwd root with
    | .ok place =>
      decidable_of_iff (∀ l ∈ g.leases, l.isOpen = true → ¬l.place <+: place) (by simp [Spares, h])
    | .error _ => .isTrue (by simp [Spares, h])
  | .write .. => .isTrue trivial
  | .close _ => .isTrue trivial
  | .drop _ => .isTrue trivial

/-- Of several operations, none makes an area inside one that is open by then. -/
def SparesAll (names : Nat → String) : Grounds → List Operation → Prop
  | _, [] => True
  | g, op :: ops => g.Spares op ∧ SparesAll names (g.perform names op).1 ops

instance (names : Nat → String) (g : Grounds) : (ops : List Operation) →
    Decidable (g.SparesAll names ops)
  | [] => .isTrue trivial
  | op :: ops =>
    have := instDecidableSparesAll names (g.perform names op).1 ops
    inferInstanceAs (Decidable (_ ∧ _))

/-- The world of a disk and nothing else. -/
def world (names : Nat → String) (g : Grounds) : World :=
  .fresh g.disk g.cwd [] names

end Grounds

variable {names : Nat → String} {d disk : Disk} {cwd parent parent' : Place}
  {random random' : String} {l l' : Lease} {g : Grounds} {i j : Nat}

/-! ### Where areas are -/

/-- An area was made at a place that was free at the start, in a directory of the start. -/
structure Lease.IsSited (d : Disk) (l : Lease) (parent : Place) (random : String) : Prop where
  lettered : IsRandomPart random
  root : l.parent = .ok parent
  area : l.area = below parent random
  above : d.node? parent = some .directory
  free : d.entry? (placeBelow parent random) = none

namespace Lease.IsSited

lemma place_eq (wf : d.WellFormed) (h : l.IsSited d parent random) :
    l.place = placeBelow parent random := by
  rw [place, h.area]
  exact names_below (fun n hn => wf.isProper h.above hn) h.lettered

/-- A place of an area is not inside another one. -/
lemma eq_of_prefix (wf : d.WellFormed) (h : l.IsSited d parent random)
    (h' : l'.IsSited d parent' random')
    (hwithin : placeBelow parent random <+: placeBelow parent' random') : l.area = l'.area := by
  rcases List.prefix_concat_iff.mp hwithin with heq | ⟨rest, habove⟩
  · obtain ⟨rfl, hname⟩ := List.append_inj' heq rfl
    rw [h.area, h'.area, directoryName_inj (List.singleton_inj.mp hname)]
  · have hgone := wf.entry?_below h.free rest
    rw [habove] at hgone
    have hthere := h'.above
    rw [Disk.node?, hgone] at hthere
    cases hthere

/-- Different areas have nothing in common. -/
lemma disjoint (wf : d.WellFormed) (h : l.IsSited d parent random)
    (h' : l'.IsSited d parent' random') (hne : l.area ≠ l'.area) :
    Disjoint (placeBelow parent random).tree (placeBelow parent' random').tree :=
  Place.disjoint_tree_of_not_prefix (fun hwithin => hne (h.eq_of_prefix wf h' hwithin))
    fun hwithin => hne (h'.eq_of_prefix wf h hwithin).symm

end Lease.IsSited

/-! ### What is so at every moment -/

/-- An open area is there, with what has been written into it. -/
structure Lease.IsKept (w : World) (l : Lease) (parent : Place) (random : String) : Prop where
  hosts : Hosts w parent random
  records : Records (contentOf w parent random) l.written

/-- Every area was made where nothing was, the open ones are kept, none of them has been made again,
and the rest of the disk is as it was at the start. -/
structure Tended (names : Nat → String) (d : Disk) (g : Grounds) : Prop where
  orderly : (g.world names).IsOrderly
  sited : ∀ l ∈ g.leases, ∃ parent random, l.IsSited d parent random ∧
    (l.isOpen = true → l.IsKept (g.world names) parent random)
  fresh : ∀ (i j : Nat) (l l' : Lease), i < j → g.leases[i]? = some l → g.leases[j]? = some l' →
    l.isOpen = true → l'.area ≠ l.area
  outside : ∀ q, (∀ l ∈ g.leases, l.isOpen = true → ¬l.place <+: q) → g.disk.entry? q = d.entry? q

lemma Grounds.isOrderly_world (tree : g.disk.WellFormed) (standing : g.disk.IsStanding g.cwd)
    (lettered : ∀ n, IsRandomPart (names n)) : (g.world names).IsOrderly where
  tree := tree
  standing := standing
  tokens := by simp [Grounds.world, World.fresh, Tokens.none]
  pipes := by simp [Grounds.world, World.fresh, Machine.idle]
  names := lettered

/-- At the start there are no areas. -/
lemma Tended.start (tree : d.WellFormed) (standing : d.IsStanding cwd)
    (lettered : ∀ n, IsRandomPart (names n)) : Tended names d (.start d cwd) where
  orderly := Grounds.isOrderly_world tree standing lettered
  sited l hl := absurd hl List.not_mem_nil
  fresh i j l l' _ hl := by simp [Grounds.start] at hl
  outside _ _ := rfl

/-- What is not on the disk does not count. -/
lemma Grounds.changes_withDisk {region : Set Place}
    (h : Changes region (g.world names) ((g.world names).withDisk disk)) :
    Changes region (g.world names) ((g.withDisk disk).world names) :=
  ⟨isOrderly_world h.orderly.tree h.orderly.standing h.orderly.names, h.cwd, h.disk⟩

lemma Grounds.hosts_withDisk (h : Hosts ((g.world names).withDisk disk) parent random) :
    Hosts ((g.withDisk disk).world names) parent random :=
  { h with
    orderly := isOrderly_world h.orderly.tree h.orderly.standing h.orderly.names }

/-- An open area is still kept after changes elsewhere. -/
lemma Lease.IsKept.of_changes {w w' : World} {region : Set Place} (h : l.IsKept w parent random)
    (changes : Changes region w w') (disjoint : Disjoint (placeBelow parent random).tree region) :
    l.IsKept w' parent random := by
  obtain ⟨hosts, hcontent⟩ := h.hosts.of_changes changes disjoint
  refine ⟨hosts, ?_⟩
  rw [hcontent]
  exact h.records

/-- An open area is where it has been made. -/
lemma Tended.kept (tended : Tended names d g) (hl : g.open? i = some l) :
    ∃ parent random, l.IsSited d parent random ∧ l.IsKept (g.world names) parent random := by
  obtain ⟨hat, hopen⟩ := Option.filter_eq_some_iff.mp hl
  obtain ⟨p, r, sited, kept⟩ := tended.sited l (List.mem_of_getElem? hat)
  exact ⟨p, r, sited, kept hopen⟩

/-- Two open areas are different ones. -/
lemma Tended.area_ne (tended : Tended names d g) (hij : i ≠ j) (hl : g.open? i = some l)
    (hl' : g.open? j = some l') : l.area ≠ l'.area := by
  obtain ⟨hat, hopen⟩ := Option.filter_eq_some_iff.mp hl
  obtain ⟨hat', hopen'⟩ := Option.filter_eq_some_iff.mp hl'
  rcases Nat.lt_or_gt_of_ne hij with hlt | hgt
  · exact (tended.fresh i j l l' hlt hat hat' hopen).symm
  · exact tended.fresh j i l' l hgt hat' hat hopen'

/-- No open area is where nothing is. -/
lemma Lease.IsKept.entry?_ne_none {w : World} (h : l.IsKept w parent random) :
    w.disk.entry? (placeBelow parent random) ≠ none := by
  obtain ⟨e, he, -⟩ := h.hosts.made
  simp [he]

/-! ### Making an area -/

/-- Where an area is made there is no other one, now or at the start. -/
lemma Tended.isSited_made (tended : Tended names d g)
    (admits : Admits g.disk parent random) (lettered : IsRandomPart random)
    (outside : ∀ l ∈ g.leases, l.isOpen = true → ¬l.place <+: parent) (wf : d.WellFormed) :
    Lease.IsSited d (.new (below parent random) (.ok parent)) parent random := by
  have habove : g.disk.node? parent = d.node? parent := by
    rw [Disk.node?, Disk.node?, tended.outside parent outside]
  refine ⟨lettered, rfl, rfl, habove.symm.trans admits.above, ?_⟩
  rw [← tended.outside, admits.free]
  intro l hl hopen hwithin
  obtain ⟨p, r, sited, kept⟩ := tended.sited l hl
  rcases List.prefix_concat_iff.mp hwithin with heq | habove
  · refine (kept hopen).entry?_ne_none ?_
    rw [← sited.place_eq wf, heq]
    exact admits.free
  · exact outside l hl hopen habove

/-- An area that is made is kept, and so are the others. -/
lemma Tended.create (tended : Tended names d g) (wf : d.WellFormed)
    (admits : Admits g.disk parent random) (lettered : IsRandomPart random)
    (outside : ∀ l ∈ g.leases, l.isOpen = true → ¬l.place <+: parent) (drawn : Nat) :
    Tended names d
      { g.withDisk (g.disk.add (placeBelow parent random) .directory Mode.secluded) with
        drawn := drawn
        leases := g.leases ++ [.new (below parent random) (.ok parent)] } := by
  have made := tended.isSited_made admits lettered outside wf
  obtain ⟨hchanges, hhosts, hempty⟩ := Admits.hosts tended.orderly lettered admits
  have changes := Grounds.changes_withDisk hchanges
  have hne : ∀ l ∈ g.leases, l.isOpen = true → l.area ≠ below parent random := by
    intro l hl hopen heq
    obtain ⟨p, r, sited, kept⟩ := tended.sited l hl
    have hplace : placeBelow p r = placeBelow parent random := by
      rw [← sited.place_eq wf, ← made.place_eq wf, Lease.place, heq]
      rfl
    refine (kept hopen).entry?_ne_none ?_
    rw [hplace]
    exact admits.free
  refine ⟨changes.orderly, fun l hl => ?_, fun i j l l' hij hl hl' hopen => ?_, fun q hq => ?_⟩
  · rcases List.mem_append.mp hl with hl | hl
    · obtain ⟨p, r, sited, kept⟩ := tended.sited l hl
      refine ⟨p, r, sited, fun hopen => ?_⟩
      exact (kept hopen).of_changes changes (sited.disjoint wf made (hne l hl hopen))
    · rw [List.mem_singleton.mp hl]
      exact ⟨parent, random, made, fun _ => ⟨Grounds.hosts_withDisk hhosts, .nil hempty⟩⟩
  · have hlt := (List.getElem?_eq_some_iff.mp hl').1
    rw [List.length_append, List.length_singleton] at hlt
    have hi : i < g.leases.length := Nat.lt_of_lt_of_le hij (Nat.le_of_lt_succ hlt)
    rw [List.getElem?_append_left hi] at hl
    by_cases hj : j < g.leases.length
    · rw [List.getElem?_append_left hj] at hl'
      exact tended.fresh i j l l' hij hl hl' hopen
    · have hlast : l' ∈ [Lease.new (below parent random) (.ok parent)] := by
        rw [List.getElem?_append_right (Nat.not_lt.mp hj)] at hl'
        exact List.mem_of_getElem? hl'
      rw [List.mem_singleton.mp hlast]
      exact (hne l (List.mem_of_getElem? hl) hopen).symm
  · have hnew := hq _ (List.mem_append_right _ (List.mem_singleton_self _)) rfl
    rw [made.place_eq wf] at hnew
    rw [← tended.outside q fun l hl => hq l (List.mem_append_left _ hl)]
    exact changes.disk.outside q hnew

/-! ### Using an area -/

/-- An element of a list in which one has been modified is that one or stands beside it. -/
lemma modify_cases {α : Type*} {xs : List α} {x y : α} {f : α → α} (hx : xs[i]? = some x)
    (hy : (xs.modify i f)[j]? = some y) : j = i ∧ y = f x ∨ j ≠ i ∧ xs[j]? = some y := by
  rw [List.getElem?_modify] at hy
  by_cases hij : i = j
  · subst hij
    rw [hx] at hy
    exact .inl ⟨rfl, by simpa using hy.symm⟩
  · exact .inr ⟨Ne.symm hij, by simpa [hij] using hy⟩

/-- What is done to an open area, whether it stays open or not, is no concern of the others. -/
lemma Tended.modify (tended : Tended names d g) (wf : d.WellFormed) (hl : g.open? i = some l)
    (sited : l.IsSited d parent random) {f : Lease → Lease} (area : (f l).area = l.area)
    (root : (f l).parent = l.parent)
    (changes : Changes (placeBelow parent random).tree (g.world names)
      ((g.withDisk disk).world names))
    (kept : (f l).isOpen = true → (f l).IsKept ((g.withDisk disk).world names) parent random)
    (gone : (f l).isOpen = false → ∀ q ∈ (placeBelow parent random).tree, disk.entry? q = none) :
    Tended names d { g.withDisk disk with leases := g.leases.modify i f } := by
  obtain ⟨hat, hopen⟩ := Option.filter_eq_some_iff.mp hl
  refine ⟨changes.orderly, fun m hm => ?_, fun j k m m' hjk hm hm' hmopen => ?_, fun q hq => ?_⟩
  · obtain ⟨j, hj⟩ := List.getElem?_of_mem hm
    rcases modify_cases hat hj with ⟨-, rfl⟩ | ⟨hji, hj⟩
    · exact ⟨parent, random, ⟨sited.lettered, root.trans sited.root, area.trans sited.area,
        sited.above, sited.free⟩, kept⟩
    · obtain ⟨p, r, msited, mkept⟩ := tended.sited m (List.mem_of_getElem? hj)
      refine ⟨p, r, msited, fun hmopen => ?_⟩
      have hne := tended.area_ne hji (Option.filter_eq_some_iff.mpr ⟨hj, hmopen⟩) hl
      exact (mkept hmopen).of_changes changes (msited.disjoint wf sited hne)
  · rcases modify_cases hat hm with ⟨rfl, rfl⟩ | ⟨-, hj⟩
    · rcases modify_cases hat hm' with ⟨rfl, -⟩ | ⟨-, hk⟩
      · exact absurd hjk (Nat.lt_irrefl _)
      · rw [area]
        exact tended.fresh j k l m' hjk hat hk hopen
    · rcases modify_cases hat hm' with ⟨rfl, rfl⟩ | ⟨-, hk⟩
      · rw [area]
        exact tended.fresh j k m l hjk hj hat hmopen
      · exact tended.fresh j k m m' hjk hj hk hmopen
  · by_cases hin : placeBelow parent random <+: q
    · have hi : (g.leases.modify i f)[i]? = some (f l) := by
        rw [List.getElem?_modify, hat]
        simp
      have hclosed : (f l).isOpen = false := by
        cases hstate : (f l).isOpen with
        | false => rfl
        | true =>
          have hq := hq (f l) (List.mem_of_getElem? hi) hstate
          rw [Lease.place, area, ← Lease.place, sited.place_eq wf] at hq
          exact absurd hin hq
      obtain ⟨rel, rfl⟩ := hin
      rw [wf.entry?_below sited.free]
      exact gone hclosed _ (List.prefix_append _ _)
    · rw [← tended.outside q fun m hm hmopen => ?_]
      · exact changes.disk.outside q hin
      obtain ⟨j, hj⟩ := List.getElem?_of_mem hm
      by_cases hji : j = i
      · subst hji
        rw [hat, Option.some.injEq] at hj
        rw [← hj, sited.place_eq wf]
        exact hin
      · have hm' : (g.leases.modify i f)[j]? = some m := by
          rw [List.getElem?_modify, hj]
          simp [Ne.symm hji]
        exact hq m (List.mem_of_getElem? hm') hmopen

/-- Writing into an area keeps it. -/
lemma Tended.write (tended : Tended names d g) (wf : d.WellFormed) (hl : g.open? i = some l)
    {tag source : String} {p : Path}
    (h : l.area.writeEntry g.disk g.cwd (.ofTag tag) source = .ok (p, disk)) :
    Tended names d { g.withDisk disk with
      leases := g.leases.modify i (·.write (EntryExtension.ofTag tag).extension source) } := by
  obtain ⟨parent, random, sited, kept⟩ := tended.kept hl
  rw [sited.area] at h
  obtain ⟨hkeeps, records⟩ := kept.hosts.records_writeEntry kept.records h
  have hosts := Grounds.hosts_withDisk (kept.hosts.of_keeps hkeeps)
  have hopen : l.isOpen = true := (Option.filter_eq_some_iff.mp hl).2
  refine tended.modify wf hl sited rfl rfl (Grounds.changes_withDisk hkeeps.toChanges)
    (fun _ => ⟨hosts, records⟩) fun hclosed => ?_
  exact absurd (hopen.symm.trans hclosed) (by simp)

/-- An area that is given up is removed. -/
lemma Tended.giveUp (tended : Tended names d g) (wf : d.WellFormed) (hl : g.open? i = some l) :
    ∃ disk, l.area.close g.disk g.cwd = .ok disk ∧
      Tended names d { g.withDisk disk with leases := g.leases.modify i .giveUp } := by
  obtain ⟨parent, random, sited, kept⟩ := tended.kept hl
  obtain ⟨hchanges, hgone⟩ := kept.hosts.changes_close
  refine ⟨g.disk.cut (placeBelow parent random), ?_, ?_⟩
  · rw [sited.area]
    exact kept.hosts.close_eq
  · exact tended.modify wf hl sited rfl rfl (Grounds.changes_withDisk hchanges)
      (fun hopen => by cases hopen) fun _ => hgone

/-! ### Every operation -/

/-- The number of names that have been proposed does not count. -/
lemma Tended.drawn (tended : Tended names d g) (drawn : Nat) :
    Tended names d { g with drawn := drawn } :=
  ⟨tended.orderly, tended.sited, tended.fresh, tended.outside⟩

/-- What is done with an open area matters only if there is one. -/
lemma Tended.withOpen (tended : Tended names d g) {f : Lease → Grounds × Option Failure}
    (h : ∀ l, g.open? i = some l → Tended names d (f l).1) :
    Tended names d (g.withOpen i f).1 := by
  unfold Grounds.withOpen
  cases hl : g.open? i with
  | none => exact tended
  | some l => exact h l hl

/-- An operation keeps what is so at every moment, whether it fails or not. -/
lemma Tended.perform (tended : Tended names d g) (wf : d.WellFormed) {op : Operation}
    (spares : g.Spares op) : Tended names d (g.perform names op).1 := by
  cases op with
  | create root =>
    rcases hcreate : StagingArea.create g.disk g.cwd root names g.drawn with
      ⟨drawn, _ | ⟨area, disk⟩⟩
    · simp only [Grounds.perform, hcreate]
      exact tended.drawn drawn
    · obtain ⟨parent, n, hparent, hmade⟩ := exists_attempt_of_create hcreate
      have lettered : IsRandomPart (names n) := tended.orderly.names n
      have tree : g.disk.WellFormed := tended.orderly.tree
      obtain ⟨node, hnode, hreal⟩ := exists_node_of_parentOf tree tended.orderly.standing hparent
      have admits := admits_of_made lettered tree hnode hreal hmade
      rw [admits.attempt_eq tree lettered] at hmade
      cases hmade
      have hroot := parentOf_eq_ok_iff.mp hparent
      simp only [Grounds.perform, hcreate, hroot]
      exact tended.create wf admits lettered (spares parent hroot) drawn
  | write i tag source =>
    refine tended.withOpen fun l hl => ?_
    cases hwrite : l.area.writeEntry g.disk g.cwd (.ofTag tag) source with
    | error failure => exact tended
    | ok written => exact tended.write wf hl hwrite
  | close i =>
    refine tended.withOpen fun l hl => ?_
    obtain ⟨disk, hclose, tended'⟩ := tended.giveUp wf hl
    simp only [hclose]
    exact tended'
  | drop i =>
    refine tended.withOpen fun l hl => ?_
    obtain ⟨disk, hclose, tended'⟩ := tended.giveUp wf hl
    simp only [StagingArea.drop, hclose]
    exact tended'

/-- Whatever is done, in whatever order, this stays so. -/
lemma Tended.performAll (tended : Tended names d g) (wf : d.WellFormed) {ops : List Operation}
    (spares : g.SparesAll names ops) : Tended names d (g.performAll names ops) := by
  induction ops generalizing g with
  | nil => exact tended
  | cons op ops ih => exact ih (tended.perform wf spares.1) spares.2

/-! ### Who owns which directory -/

/-- An open area is a directory, named directly below what its root meant when it was made, and
holds the sources that have been written into it last, each under the name for its extension, and
nothing else. -/
structure Grounds.Owns (g : Grounds) (l : Lease) : Prop where
  named : ∃ parent random, l.parent = .ok parent ∧ IsRandomPart random ∧
    l.area.path = parent.path.child ("codeblock-" ++ random)
  absolute : l.area.path.isAbsolute = true
  there : g.disk.locateNode g.cwd false l.area.path = .ok (l.place, .directory)
  holds : ∀ rel node, rel ≠ [] → (g.disk.node? (l.place ++ rel) = some node ↔
    ∃ extension source, l.written.lookup extension = some source ∧
      rel = ["index." ++ extension] ∧ node = .file source.toUTF8)

lemma Tended.owns (tended : Tended names d g) (wf : d.WellFormed) (hl : g.open? i = some l) :
    g.Owns l := by
  obtain ⟨parent, random, sited, kept⟩ := tended.kept hl
  refine ⟨⟨parent, random, sited.root, sited.lettered, ?_⟩, ?_, ?_, fun rel node hrel => ?_⟩
  · rw [sited.area]
    rfl
  · rw [sited.area]
    exact isAbsolute_below parent sited.lettered.slashless
  · rw [sited.place_eq wf, sited.area]
    exact kept.hosts.locateNode_eq
  · rw [sited.place_eq wf, ← kept.records.nodes rel node]
    have hcontent : contentOf (g.world names) parent random rel =
        g.disk.entry? (placeBelow parent random ++ rel) := Disk.contentBelow_of_ne_nil hrel
    rw [hcontent]
    rfl

/-- An area that has been given up is gone, unless another one has been made there since. -/
lemma Tended.gone (tended : Tended names d g) (wf : d.WellFormed) (hl : g.leases[i]? = some l)
    (hclosed : l.isOpen = false) : g.disk.linkOrNode? g.cwd l.area.path = none ∨
      ∃ j l', i < j ∧ g.open? j = some l' ∧ l'.area = l.area := by
  obtain ⟨parent, random, sited, -⟩ := tended.sited l (List.mem_of_getElem? hl)
  by_cases hagain : ∃ l' ∈ g.leases, l'.isOpen = true ∧ l'.area = l.area
  · obtain ⟨l', hmem, hopen, harea⟩ := hagain
    obtain ⟨j, hj⟩ := List.getElem?_of_mem hmem
    refine .inr ⟨j, l', ?_, Option.filter_eq_some_iff.mpr ⟨hj, hopen⟩, harea⟩
    rcases Nat.lt_trichotomy i j with hlt | rfl | hgt
    · exact hlt
    · rw [hl, Option.some.injEq] at hj
      subst hj
      exact absurd (hopen.symm.trans hclosed) (by simp)
    · exact absurd harea.symm (tended.fresh j i l' l hgt hj hl hopen)
  · -- No area that is open now is at the place, nor above it.
    have hnone : ∀ q, q <+: placeBelow parent random → g.disk.entry? q = d.entry? q := by
      intro q hq
      refine tended.outside q fun l' hmem hopen hwithin => hagain ⟨l', hmem, hopen, ?_⟩
      obtain ⟨p, r, sited', -⟩ := tended.sited l' hmem
      rw [sited'.place_eq wf] at hwithin
      exact sited'.eq_of_prefix wf sited (hwithin.trans hq)
    have habove : g.disk.node? parent = some .directory := by
      rw [Disk.node?, hnone parent (List.prefix_append _ _)]
      exact sited.above
    rw [sited.area]
    exact .inl (linkOrNode?_below_eq_none sited.lettered tended.orderly.tree habove
      ((hnone _ List.prefix_rfl).trans sited.free) g.cwd)

/-- Whatever is done with any number of areas, in any order, as long as none is made inside an open
one: the open areas are different directories, each named below what its root meant when it was
made, and each holds what has been written into it last for each extension. One that is closed or
dropped is gone, unless its name has been chosen again. An area that cannot be made is a failure to
stage that names the root, and changes nothing. The rest of the disk is as it was. -/
theorem owned_after_all (names : Nat → String) (d : Disk) (cwd : Place) (ops : List Operation)
    (g : Grounds) (tree : d.WellFormed) (standing : d.IsStanding cwd)
    (lettered : ∀ n, IsRandomPart (names n)) (spares : (Grounds.start d cwd).SparesAll names ops)
    (reached : (Grounds.start d cwd).performAll names ops = g) :
    (∀ i j l l', i ≠ j → g.open? i = some l → g.open? j = some l' → l.area.path ≠ l'.area.path) ∧
    (∀ i l, g.open? i = some l → g.Owns l) ∧
    (∀ i l, g.leases[i]? = some l → l.isOpen = false →
      g.disk.linkOrNode? g.cwd l.area.path = none ∨
        ∃ j l', i < j ∧ g.open? j = some l' ∧ l'.area = l.area) ∧
    (∀ root failure, (g.perform names (.create root)).2 = some failure →
      (∃ fault, failure = .staging root fault) ∧
        (g.perform names (.create root)).1.disk = g.disk) ∧
    ∀ q, (∀ i l, g.open? i = some l → ¬l.place <+: q) → g.disk.entry? q = d.entry? q := by
  have tended : Tended names d g := by
    rw [← reached]
    exact (Tended.start tree standing lettered).performAll tree spares
  refine ⟨fun i j l l' hij hl hl' hpath => ?_, fun i l hl => tended.owns tree hl,
    fun i l hl hclosed => tended.gone tree hl hclosed, fun root failure hfail => ?_,
    fun q hq => ?_⟩
  · exact tended.area_ne hij hl hl' (congrArg StagingArea.mk hpath)
  · rcases create_cases g.disk g.cwd root names g.drawn with
      ⟨drawn, fault, hcreate⟩ | ⟨drawn, area, disk, hcreate⟩
    · simp only [Grounds.perform, hcreate, Option.some.injEq] at hfail ⊢
      exact ⟨⟨fault, hfail.symm⟩, trivial⟩
    · simp [Grounds.perform, hcreate] at hfail
  · refine tended.outside q fun l hl hopen => ?_
    obtain ⟨i, hi⟩ := List.getElem?_of_mem hl
    exact hq i l (Option.filter_eq_some_iff.mpr ⟨hi, hopen⟩)

/-- A disk with a directory for staging and a link to it. -/
def linkedDisk : Disk :=
  ⟨[(["tmp"], ⟨.directory, 1, Mode.directory, 0⟩),
    (["t"], ⟨.link ⟨"/tmp"⟩, 2, Mode.unrestricted, 0⟩)], 3, 0⟩

/-- Names of which the first is proposed twice. -/
def crowdedNames (n : Nat) : String :=
  if n < 2 then "aaaaaa" else "bbbbbb"

/-- Two areas are made by different roots, one is written into twice, the other one is dropped and
then made again, and last comes a root that is missing. -/
def errands : List Operation :=
  [.create ⟨"/tmp"⟩, .create ⟨"/t"⟩, .write 0 "typescript" "let a;", .write 0 "ts" "let b;",
    .drop 1, .create ⟨"/t/../tmp"⟩, .create ⟨"/nowhere"⟩]

/-- The areas that these errands make. -/
def errandLeases : List Lease :=
  [⟨below ["tmp"] "aaaaaa", .ok ["tmp"], [("ts", "let b;"), ("ts", "let a;")], true⟩,
    ⟨below ["tmp"] "bbbbbb", .ok ["tmp"], [], false⟩,
    ⟨below ["tmp"] "bbbbbb", .ok ["tmp"], [], true⟩]

/-- After these errands two areas are open, of which one has the name of the one that was dropped. -/
theorem owned_after_all_errands :
    ∃ g a b c, (Grounds.start linkedDisk []).performAll crowdedNames errands = g ∧
      linkedDisk.WellFormed ∧ linkedDisk.IsStanding [] ∧ (∀ n, IsRandomPart (crowdedNames n)) ∧
      (Grounds.start linkedDisk []).SparesAll crowdedNames errands ∧
      g.leases = [a, b, c] ∧ g.open? 0 = some a ∧ b.isOpen = false ∧ g.open? 2 = some c ∧
      a.area.path ≠ c.area.path ∧ g.Owns a ∧ g.Owns c ∧ c.area = b.area ∧
      g.disk.node? ["tmp", "codeblock-aaaaaa", "index.ts"] = some (.file "let b;".toUTF8) ∧
      g.disk.entry? ["t"] = linkedDisk.entry? ["t"] := by
  have tree : linkedDisk.WellFormed := by decide
  have standing : linkedDisk.IsStanding [] := ⟨[], [], rfl, rfl, by simp⟩
  have lettered : ∀ n, IsRandomPart (crowdedNames n) := by
    intro n
    unfold crowdedNames
    split <;> decide
  have spares : (Grounds.start linkedDisk []).SparesAll crowdedNames errands := by decide +kernel
  obtain ⟨g, reached⟩ : ∃ g, (Grounds.start linkedDisk []).performAll crowdedNames errands = g :=
    ⟨_, rfl⟩
  have leases : g.leases = errandLeases := by
    rw [← reached]
    decide +kernel
  obtain ⟨distinct, owns, -, -, outside⟩ :=
    owned_after_all crowdedNames linkedDisk [] errands g tree standing lettered spares reached
  have first : g.open? 0 = errandLeases[0]? := by
    rw [Grounds.open?, leases]
    rfl
  have third : g.open? 2 = errandLeases[2]? := by
    rw [Grounds.open?, leases]
    rfl
  refine ⟨g, _, _, _, reached, tree, standing, lettered, spares, leases, first, rfl, third,
    distinct 0 2 _ _ (by decide) first third, owns 0 _ first, owns 2 _ third, rfl, ?_, ?_⟩
  · have hplace : (below ["tmp"] "aaaaaa").path.names = ["tmp", "codeblock-aaaaaa"] := by
      decide +kernel
    have holds := ((owns 0 _ first).holds ["index.ts"] (.file "let b;".toUTF8)
      (List.cons_ne_nil _ _)).mpr ⟨"ts", "let b;", rfl, rfl, rfl⟩
    rw [Lease.place, hplace] at holds
    exact holds
  · refine outside ["t"] fun i l hl => ?_
    have hmem : l ∈ errandLeases := by
      rw [← leases]
      exact List.mem_of_getElem? (Option.filter_eq_some_iff.mp hl).1
    have hapart : ∀ l ∈ errandLeases, ¬l.place <+: ["t"] := by decide +kernel
    exact hapart l hmem

end SnippetForge.StagingArea
