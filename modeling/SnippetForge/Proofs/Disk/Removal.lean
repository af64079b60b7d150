import Mathlib
import SnippetForge.Proofs.Disk.Listings

/-!
# Taking a tree down

A system does not remove a tree at once. It removes one entry after another. Anything but a directory
goes as it is, so of a link the link goes and not what it points to, and a directory goes once
nothing is left in it. In which order the entries of a directory come is up to the system.

None of this matters in the end. However a tree is taken down, once nothing more can be removed the
tree is gone and nothing else is, and every tree can be taken down. What carries this is that a step
does not change what is left when the tree is cut out.
-/

namespace SnippetForge.Disk

variable {d d' : Disk} {root : Place}

/-! ### One entry -/

/-- The disk without the entry at a place. -/
def erase (d : Disk) (place : Place) : Disk :=
  d.restrict fun q => q != place

/-- One entry of a tree is removed. -/
inductive Unlinks (root : Place) (d : Disk) : Disk → Prop
  /-- Anything but a directory goes. Where a link leads is not asked. -/
  | node {place : Place} {node : Node} (within : root <+: place) (h : d.node? place = some node)
      (kind : node ≠ .directory) : Unlinks root d (d.erase place)
  /-- A directory goes if nothing is in it. -/
  | directory {place : Place} (within : root <+: place) (h : d.node? place = some .directory)
      (bare : d.children place = []) : Unlinks root d (d.erase place)

/-- What is removed is in the tree, and nothing is below it. -/
lemma Unlinks.exists_place (wf : d.WellFormed) (h : Unlinks root d d') :
    ∃ place, root <+: place ∧ (∃ e, d.entry? place = some e) ∧
      (∀ e ∈ d.entries, e.1.dropLast ≠ place) ∧ d' = d.erase place := by
  cases h with
  | @node place node within h kind =>
    obtain ⟨e, he, -⟩ := node?_eq_some_iff.mp h
    refine ⟨place, within, ⟨e, he⟩, ?_, rfl⟩
    rintro f hf rfl
    rw [wf.rooted f hf, Option.some.injEq] at h
    exact kind h.symm
  | @directory place within h bare =>
    obtain ⟨e, he, -⟩ := node?_eq_some_iff.mp h
    refine ⟨place, within, ⟨e, he⟩, ?_, rfl⟩
    rintro ⟨q, f⟩ hf rfl
    have hchild : (q.getLast (wf.proper _ hf).1, f.node) ∈ d.children q.dropLast := by
      rw [wf.mem_children, List.dropLast_append_getLast, node?, wf.entry?_of_mem hf]
      rfl
    rw [bare] at hchild
    cases hchild

/-- Removing an entry leaves a tree, and one entry less. The rest of the disk is the same. -/
lemma Unlinks.spec (wf : d.WellFormed) (hroot : root ≠ []) (h : Unlinks root d d') :
    d'.WellFormed ∧ d'.cut root = d.cut root ∧ d'.entries.length < d.entries.length := by
  obtain ⟨place, within, ⟨e, he⟩, bare, rfl⟩ := h.exists_place wf
  have hplace : place ≠ [] := by
    rintro rfl
    exact hroot (List.prefix_nil.mp within)
  refine ⟨wf.restrict fun f hf _ _ => by simpa using bare f hf, ?_, ?_⟩
  · simp only [cut, erase, restrict, Disk.mk.injEq, and_self, and_true, List.filter_filter]
    refine List.filter_congr fun f _ => ?_
    by_cases hf : f.1 = place
    · simp [hf, within]
    · simp [hf]
  · exact List.length_filter_lt_length_iff_exists.mpr ⟨(place, e), mem_entries hplace he, by simp⟩

/-- As long as something is in a tree, an entry of it can be removed: one of those that are deepest. -/
lemma exists_unlinks (wf : d.WellFormed) {e : Place × Entry} (he : e ∈ d.entries)
    (within : root <+: e.1) : ∃ d', Unlinks root d d' := by
  have hfound : (d.entries.toFinset.filter fun f => root <+: f.1).Nonempty :=
    ⟨e, by simp [he, within]⟩
  obtain ⟨⟨place, f⟩, hf, hdeepest⟩ := Finset.exists_max_image _ (fun f => f.1.length) hfound
  simp only [Finset.mem_filter, List.mem_toFinset] at hf hdeepest
  have hentry := wf.entry?_of_mem hf.1
  by_cases hkind : f.node = .directory
  · refine ⟨_, .directory hf.2 (node?_eq_some_iff.mpr ⟨f, hentry, hkind⟩) ?_⟩
    refine List.eq_nil_iff_forall_not_mem.mpr fun ⟨name, node⟩ hchild => ?_
    rw [wf.mem_children, node?_eq_some_iff] at hchild
    obtain ⟨g, hg, -⟩ := hchild
    have hlength := hdeepest _
      ⟨mem_entries (by simp) hg, hf.2.trans (List.prefix_append _ _)⟩
    simp at hlength
  · exact ⟨_, .node hf.2 (node?_eq_some_iff.mpr ⟨f, hentry, rfl⟩) hkind⟩

/-! ### All entries -/

/-- A tree is taken down by removing entries of it, one after another, until none can be removed. -/
structure TakesDown (root : Place) (d d' : Disk) : Prop where
  steps : Relation.ReflTransGen (Unlinks root) d d'
  done : ∀ d'', ¬Unlinks root d' d''

/-- Where nothing is in a tree, cutting it out changes nothing. -/
lemma cut_eq_self (h : ∀ e ∈ d.entries, ¬root <+: e.1) : d.cut root = d := by
  have hentries : (d.entries.filter fun e => !root.isPrefixOf e.1) = d.entries := by
    rw [List.filter_eq_self]
    intro e he
    rw [Bool.not_eq_true', Bool.eq_false_iff, ne_eq, List.isPrefixOf_iff_prefix]
    exact h e he
  rw [cut, hentries]

/-- Steps leave a tree, and the same rest. -/
lemma spec_of_steps (wf : d.WellFormed) (hroot : root ≠ [])
    (h : Relation.ReflTransGen (Unlinks root) d d') : d'.WellFormed ∧ d'.cut root = d.cut root := by
  induction h with
  | refl => exact ⟨wf, rfl⟩
  | tail _ hstep ih =>
    obtain ⟨hwf, hcut⟩ := ih
    obtain ⟨hwf', hcut', -⟩ := hstep.spec hwf hroot
    exact ⟨hwf', hcut'.trans hcut⟩

/-- In whatever order a tree is taken down, exactly the tree is gone in the end. -/
lemma TakesDown.eq_cut (wf : d.WellFormed) (hroot : root ≠ []) (h : TakesDown root d d') :
    d' = d.cut root := by
  obtain ⟨hwf, hcut⟩ := spec_of_steps wf hroot h.steps
  rw [← hcut, cut_eq_self]
  intro e he within
  obtain ⟨d'', hstep⟩ := exists_unlinks hwf he within
  exact h.done d'' hstep

/-- Every tree can be taken down. -/
lemma takesDown_cut (wf : d.WellFormed) (hroot : root ≠ []) : TakesDown root d (d.cut root) := by
  -- Every step removes an entry, so the induction is on their number.
  induction hn : d.entries.length using Nat.strongRecOn generalizing d with
  | ind n ih =>
  by_cases hempty : ∀ e ∈ d.entries, ¬root <+: e.1
  · rw [cut_eq_self hempty]
    refine ⟨.refl, fun d'' hstep => ?_⟩
    obtain ⟨place, within, ⟨e, he⟩, -⟩ := hstep.exists_place wf
    have hplace : place ≠ [] := by
      rintro rfl
      exact hroot (List.prefix_nil.mp within)
    exact hempty _ (mem_entries hplace he) within
  · push Not at hempty
    obtain ⟨e, he, within⟩ := hempty
    obtain ⟨d₁, hstep⟩ := exists_unlinks wf he within
    obtain ⟨hwf, hcut, hless⟩ := hstep.spec wf hroot
    have hrest := ih _ (hn ▸ hless) hwf rfl
    rw [hcut] at hrest
    exact ⟨.head hstep hrest.steps, hrest.done⟩

/-- A tree that is taken down is cut out, and nothing else comes of taking it down. -/
lemma takesDown_iff (wf : d.WellFormed) (hroot : root ≠ []) :
    TakesDown root d d' ↔ d' = d.cut root :=
  ⟨fun h => h.eq_cut wf hroot, fun h => h ▸ takesDown_cut wf hroot⟩

end SnippetForge.Disk
