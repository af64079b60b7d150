import Mathlib
import SnippetForge.Proofs.Disk.Trees

/-!
# Regions of a disk

Whoever works in a directory of its own changes one region of the disk. `DiffersWithin` is the frame
of such a change: outside of the region every entry stays as it is, and no node has names both
inside and outside. Changes of one region leave what is in a disjoint one as it is.

The current directory is followed through changes by the number of its node. As long as nothing on
the way to it changes, it stays where it is.
-/

namespace SnippetForge

namespace Place

/-- A place with everything below it. -/
def tree (place : Place) : Set Place :=
  {q | place <+: q}

@[simp]
lemma mem_tree {place q : Place} : q ∈ tree place ↔ place <+: q := Iff.rfl

/-- The trees of two places of which neither is in the other have nothing in common. -/
lemma disjoint_tree_of_not_prefix {p q : Place} (h : ¬p <+: q) (h' : ¬q <+: p) :
    Disjoint (tree p) (tree q) := by
  rw [Set.disjoint_left]
  intro r hp hq
  rcases List.prefix_or_prefix_of_prefix hp hq with hpq | hqp
  · exact h hpq
  · exact h' hqp

/-- The trees of two names in one directory have nothing in common. -/
lemma disjoint_tree {parent : Place} {a b : String} (h : a ≠ b) :
    Disjoint (tree (parent ++ [a])) (tree (parent ++ [b])) := by
  have hne : ∀ {c e : String}, c ≠ e → ¬parent ++ [c] <+: parent ++ [e] := by
    intro c e hce hprefix
    have heq := hprefix.eq_of_length (by simp)
    rw [List.append_cancel_left_eq] at heq
    exact hce (List.singleton_inj.mp heq)
  exact disjoint_tree_of_not_prefix (hne h) (hne h.symm)

end Place

namespace Disk

variable {d d' : Disk} {region other : Set Place}

/-! ### Frames -/

/-- No node has names both in a region and outside of it. -/
def IsSealed (d : Disk) (region : Set Place) : Prop :=
  ∀ q q' e e', q ∈ region → q' ∉ region → d.entry? q = some e → d.entry? q' = some e' → e.id ≠ e'.id

/-- A disk differs from another one only in a region, and that is sealed. -/
structure DiffersWithin (region : Set Place) (d d' : Disk) : Prop where
  outside : ∀ q, q ∉ region → d'.entry? q = d.entry? q
  sealed : d'.IsSealed region

/-- What is in a disjoint region is what it was, and is still sealed. -/
lemma DiffersWithin.isSealed (h : DiffersWithin region d d') (hdisjoint : Disjoint other region)
    (hsealed : d.IsSealed other) : d'.IsSealed other := by
  intro q q' e e' hq hq' he he'
  have hout : q ∉ region := Set.disjoint_left.mp hdisjoint hq
  by_cases hin : q' ∈ region
  · exact (h.sealed q' q e' e hin hout he' he).symm
  · rw [h.outside q hout] at he
    rw [h.outside q' hin] at he'
    exact hsealed q q' e e' hq hq' he he'

/-- Nothing has been changed. -/
lemma DiffersWithin.of_eq (h : ∀ q, d'.entry? q = d.entry? q) : DiffersWithin ∅ d d' :=
  ⟨fun q _ => h q, fun _ _ _ _ hq => absurd hq (Set.notMem_empty _)⟩

/-- A new node changes a region that it is in and that was sealed. -/
lemma DiffersWithin.add (wf : d.WellFormed) {place : Place} (hfree : d.entry? place = none)
    (hplace : place ∈ region) (hsealed : d.IsSealed region) (node : Node) (mode : Mode) :
    DiffersWithin region d (d.add place node mode) := by
  constructor
  · intro q hq
    rw [entry?_add hfree, if_neg]
    rintro rfl
    exact hq hplace
  · intro q q' e e' hq hq' he he'
    have hne : q' ≠ place := by
      rintro rfl
      exact hq' hplace
    rw [entry?_add hfree, if_neg hne] at he'
    rw [entry?_add hfree] at he
    split at he
    · cases he
      exact (Nat.ne_of_lt (wf.id_lt he')).symm
    · exact hsealed q q' e e' hq hq' he he'

/-- Cutting out a tree changes nothing but the tree. -/
lemma DiffersWithin.cut {place : Place} (hplace : place ≠ []) :
    DiffersWithin place.tree d (d.cut place) := by
  constructor
  · intro q hq
    rw [entry?_cut hplace, if_neg (Place.mem_tree.not.mp hq)]
  · intro q q' e e' hq _ he _
    rw [entry?_cut hplace, if_pos (Place.mem_tree.mp hq)] at he
    cases he

/-- Changing a node that has a name in a sealed region changes nothing outside of it. -/
lemma DiffersWithin.change {place : Place} {e : Entry} {f : Entry → Entry}
    (he : d.entry? place = some e) (hid : e.id ≠ Entry.root.id) (hplace : place ∈ region)
    (hsealed : d.IsSealed region) (hnumber : ∀ e, (f e).id = e.id) :
    DiffersWithin region d (d.change e.id f) := by
  have hbefore : ∀ {q e'}, Disk.entry? (d.change e.id f) q = some e' →
      ∃ a, d.entry? q = some a ∧ e'.id = a.id := by
    intro q e' he'
    rw [entry?_change hid, Option.map_eq_some_iff] at he'
    obtain ⟨a, ha, rfl⟩ := he'
    refine ⟨a, ha, ?_⟩
    split
    · exact hnumber a
    · rfl
  constructor
  · intro q hq
    rw [entry?_change hid]
    cases ha : d.entry? q with
    | none => rfl
    | some a => rw [Option.map_some, if_neg (hsealed place q e a hplace hq he ha).symm]
  · intro q q' e₁ e₂ hq hq' he₁ he₂
    obtain ⟨a, ha, ha'⟩ := hbefore he₁
    obtain ⟨b, hb, hb'⟩ := hbefore he₂
    rw [ha', hb']
    exact hsealed q q' a b hq hq' ha hb

/-! ### What is in a directory -/

end Disk

/-- What lies below a directory, by the names that lead there from the directory. -/
abbrev Content := Place → Option Entry

namespace Disk

variable {d d' : Disk} {region : Set Place}

/-- What lies below a place of a disk. -/
def contentBelow (d : Disk) (place : Place) : Content := fun rel =>
  if rel = [] then none else d.entry? (place ++ rel)

lemma contentBelow_of_ne_nil {place rel : Place} (h : rel ≠ []) :
    d.contentBelow place rel = d.entry? (place ++ rel) := if_neg h

lemma DiffersWithin.contentBelow_eq (h : DiffersWithin region d d') {place : Place}
    (hdisjoint : Disjoint place.tree region) : d'.contentBelow place = d.contentBelow place := by
  funext rel
  by_cases hrel : rel = []
  · simp [contentBelow, hrel]
  · rw [contentBelow_of_ne_nil hrel, contentBelow_of_ne_nil hrel]
    exact h.outside _ (Set.disjoint_left.mp hdisjoint (List.prefix_append _ _))

/-! ### The current directory -/

/-- A current directory stands if it is there, or if it lies below a directory that is there by way
of a name that no entry can have. The latter is what becomes of a directory that is removed. -/
def IsStanding (d : Disk) (cwd : Place) : Prop :=
  ∃ above rest, cwd = above ++ rest ∧ d.node? above = some .directory ∧
    ∀ name ∈ rest.head?, ¬IsProper name

/-- Nothing is at or below a current directory that is gone. -/
lemma WellFormed.eq_append_of_standing (wf : d.WellFormed) {above rest q : Place} {e : Entry}
    (hrest : ∀ name ∈ rest.head?, ¬IsProper name) (hq : q <+: above ++ rest)
    (hentry : d.entry? q = some e) : q <+: above := by
  rcases List.prefix_or_prefix_of_prefix hq (List.prefix_append above rest) with hq' | ⟨more, rfl⟩
  · exact hq'
  · cases more with
    | nil => simp
    | cons name more =>
      obtain ⟨tail, htail⟩ := (List.prefix_append_right_inj above).mp hq
      have hproper := wf.isProper (node?_eq_some_iff.mpr ⟨e, hentry, rfl⟩) (List.mem_append_right _
        (List.mem_cons_self ..))
      exact absurd hproper (hrest name (by simp [← htail]))

/-- The number of a directory tells its place. -/
lemma WellFormed.placeOf?_id (wf : d.WellFormed) {place : Place} {e : Entry}
    (h : d.entry? place = some e) (hnode : e.node = .directory) : d.placeOf? e.id = some place := by
  unfold placeOf?
  by_cases hplace : place = []
  · subst hplace
    cases h
    rfl
  have hmem := mem_entries hplace h
  rw [if_neg (Nat.ne_of_gt (wf.numbered _ hmem).1)]
  have hfind : (d.entries.find? fun f => f.2.id == e.id).isSome = true :=
    List.find?_isSome.mpr ⟨_, hmem, by simp⟩
  obtain ⟨f, hf⟩ := Option.isSome_iff_exists.mp hfind
  have hfound := List.find?_some hf
  have hid : e.id = f.2.id := (beq_iff_eq.mp hfound).symm
  rw [hf, Option.map_some, ← ((wf.shared _ hmem f (List.mem_of_find?_eq_some hf) hid).2 hnode)]

/-- A current directory stays where it is if nothing on the way to it changes. -/
lemma follow_eq (wf : d.WellFormed) (wf' : d'.WellFormed) {cwd : Place} (h : d.IsStanding cwd)
    (hkept : ∀ q, q <+: cwd → d'.entry? q = d.entry? q) : d.follow d' cwd = cwd := by
  obtain ⟨above, rest, rfl, habove, hrest⟩ := h
  obtain ⟨e, he, hdirectory⟩ := node?_eq_some_iff.mp habove
  unfold follow
  suffices hnames : ∀ l : Place, l <+: above ++ rest → followNames d d' l.reverse = l from
    hnames _ List.prefix_rfl
  intro l
  induction l using List.reverseRecOn with
  | nil => exact fun _ => rfl
  | append_singleton l name ih =>
    intro hl
    rw [List.reverse_concat, followNames, List.reverse_reverse,
      ih ((List.prefix_append _ _).trans hl)]
    cases hentry : d.entry? (l ++ [name]) with
    | none => rfl
    | some f =>
      have hnode : f.node = .directory := by
        have hprefix := wf.eq_append_of_standing hrest hl hentry
        by_cases heq : l ++ [name] = above
        · rw [heq, he] at hentry
          cases hentry
          exact hdirectory
        · obtain ⟨g, hg, hnode⟩ := node?_eq_some_iff.mp (wf.node?_of_prefix he hprefix heq)
          rw [hentry] at hg
          cases hg
          exact hnode
      simp only
      rw [wf'.placeOf?_id ((hkept _ hl).trans hentry) hnode, Option.getD_some]

/-- A current directory stands if nothing on the way to it changes. -/
lemma IsStanding.of_kept {cwd : Place} (h : d.IsStanding cwd)
    (hkept : ∀ q, q <+: cwd → d'.entry? q = d.entry? q) : d'.IsStanding cwd := by
  obtain ⟨above, rest, rfl, habove, hrest⟩ := h
  refine ⟨above, rest, rfl, ?_, hrest⟩
  rw [node?, hkept _ (List.prefix_append _ _)]
  exact habove

/-- If anything is where the current directory stands, it is the directory. -/
lemma IsStanding.node?_eq (wf : d.WellFormed) {cwd : Place} {node : Node} (h : d.IsStanding cwd)
    (hnode : d.node? cwd = some node) : node = .directory := by
  obtain ⟨above, rest, rfl, habove, hrest⟩ := h
  cases rest with
  | nil =>
    rw [List.append_nil, habove] at hnode
    exact (Option.some.inj hnode).symm
  | cons name rest => exact absurd (wf.isProper hnode (by simp)) (hrest name rfl)

/-- A standing directory is not below a free place that a name can have. -/
lemma IsStanding.not_prefix (wf : d.WellFormed) {cwd place : Place} (h : d.IsStanding cwd)
    (hfree : d.entry? place = none) (hproper : ∀ name ∈ place, IsProper name) : ¬place <+: cwd := by
  obtain ⟨above, rest, rfl, habove, hrest⟩ := h
  intro hprefix
  rcases List.prefix_or_prefix_of_prefix hprefix (List.prefix_append above rest) with
    ⟨more, rfl⟩ | ⟨more, rfl⟩
  · rw [node?, wf.entry?_below hfree] at habove
    cases habove
  · cases more with
    | nil =>
      rw [List.append_nil] at hfree
      rw [node?, hfree] at habove
      cases habove
    | cons name more =>
      obtain ⟨tail, htail⟩ := (List.prefix_append_right_inj above).mp hprefix
      exact hrest name (by simp [← htail]) (hproper name (by simp))

end Disk

end SnippetForge
