import Mathlib
import SnippetForge.Proofs.Disk.Trees

/-!
# What a directory lists

The children of a directory are the entries one name below it, each once. Listed by name they are
in strict order.
-/

namespace SnippetForge.Disk

variable {d : Disk}

lemma childOf?_eq_some_iff {directory : Place} {e : Place × Entry} {name : String} {node : Node} :
    childOf? directory e = some (name, node) ↔ e.1 = directory ++ [name] ∧ e.2.node = node := by
  unfold childOf?
  constructor
  · intro h
    split at h
    · split at h
      · next heq =>
        cases h
        exact ⟨heq, rfl⟩
      · cases h
    · cases h
  · rintro ⟨hplace, rfl⟩
    rw [hplace, List.getLast?_concat]
    simp

/-- The children of a directory are what is one name below it. -/
lemma WellFormed.mem_children (wf : d.WellFormed) {directory : Place} {name : String}
    {node : Node} :
    (name, node) ∈ d.children directory ↔ d.node? (directory ++ [name]) = some node := by
  unfold children
  rw [List.mem_filterMap, node?_eq_some_iff]
  constructor
  · rintro ⟨e, he, hchild⟩
    obtain ⟨hplace, rfl⟩ := childOf?_eq_some_iff.mp hchild
    have hentry := wf.entry?_of_mem he
    rw [hplace] at hentry
    exact ⟨e.2, hentry, rfl⟩
  · rintro ⟨e, hentry, rfl⟩
    exact ⟨(directory ++ [name], e), mem_entries (by simp) hentry,
      childOf?_eq_some_iff.mpr ⟨rfl, rfl⟩⟩

/-- No two children have the same name. -/
lemma WellFormed.nodup_children (wf : d.WellFormed) (directory : Place) :
    (d.children directory).Pairwise fun a b => a.1 ≠ b.1 := by
  have hdistinct := wf.distinct
  rw [List.nodup_iff_pairwise_ne, List.pairwise_map] at hdistinct
  unfold children
  rw [List.pairwise_filterMap]
  refine hdistinct.imp fun {e f} hne a ha b hb hname => hne ?_
  rw [(childOf?_eq_some_iff.mp ha).1, (childOf?_eq_some_iff.mp hb).1, hname]

lemma mem_sortedChildren {directory : Place} {child : String × Node} :
    child ∈ d.sortedChildren directory ↔ child ∈ d.children directory :=
  (List.mergeSort_perm _ _).mem_iff

/-- A directory lists its children in strict order. -/
lemma WellFormed.pairwise_sortedChildren (wf : d.WellFormed) (directory : Place) :
    (d.sortedChildren directory).Pairwise fun a b => a.1 < b.1 := by
  have hle : (d.sortedChildren directory).Pairwise fun a b => a.1 ≤ b.1 := by
    refine (List.pairwise_mergeSort ?_ ?_ (d.children directory)).imp ?_
    · intro a b c hab hbc
      simp only [nameLe, Bool.not_eq_true', decide_eq_false_iff_not, not_lt] at *
      exact hab.trans hbc
    · intro a b
      simp only [nameLe, Bool.or_eq_true, Bool.not_eq_true', decide_eq_false_iff_not, not_lt]
      exact le_total _ _
    · intro a b hab
      simpa only [nameLe, Bool.not_eq_true', decide_eq_false_iff_not, not_lt] using hab
  have hne : (d.sortedChildren directory).Pairwise fun a b => a.1 ≠ b.1 :=
    ((List.mergeSort_perm _ _).pairwise_iff fun h => h.symm).mpr (wf.nodup_children directory)
  exact (hle.and hne).imp fun h => lt_of_le_of_ne h.1 h.2

end SnippetForge.Disk
