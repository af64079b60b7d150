import SnippetForge.Proofs.Disk.Removal
import SnippetForge.Proofs.Staging.Areas

/-!
# Closing an area

Between its making and its closing anything can happen to an area. What it holds may be nested and
full of links, and its directory may be removed, moved away or replaced. Closing does not look at any
of that. It takes down what is at the path of the area when it is closed, a directory with everything
below it, a link as a link, and it fails where there is neither. Dropping an area does the same to
the disk.

The place that is taken down need not be the one where the area was made, because the directories
above it may have been replaced by links meanwhile.
-/

namespace SnippetForge

namespace Disk

/-- A disk has lost the tree at a place and nothing else. -/
structure Loses (d : Disk) (place : Place) (d' : Disk) : Prop where
  tree : d'.WellFormed
  entries : ∀ q, d'.entry? q = if place <+: q then none else d.entry? q
  /-- Removing one entry after another comes to the same. -/
  stepwise : ∀ d'', TakesDown place d d'' ↔ d'' = d'

variable {d : Disk} {place : Place}

lemma loses_cut (tree : d.WellFormed) (hplace : place ≠ []) : d.Loses place (d.cut place) :=
  ⟨tree.cut place, entry?_cut hplace, fun _ => takesDown_iff tree hplace⟩

/-- A tree that is not a directory is a single entry. -/
lemma Loses.entry?_of_ne {d' : Disk} {node : Node} (loses : d.Loses place d')
    (tree : d.WellFormed) (hnode : d.node? place = some node) (kind : node ≠ .directory)
    {q : Place} (hq : q ≠ place) : d'.entry? q = d.entry? q := by
  rw [loses.entries]
  split
  · next within =>
    cases hentry : d.entry? q with
    | none => rfl
    | some e =>
      rw [tree.node?_of_prefix hentry within hq.symm, Option.some.injEq] at hnode
      exact absurd hnode.symm kind
  · rfl

end Disk

namespace StagingArea

variable {area : StagingArea} {d d' : Disk} {cwd place : Place} {node : Node}

/-- The path of an area is a directory or a link, and it lies at a place. Links on the way there are
followed, one at the end is not. -/
structure StandsAt (area : StagingArea) (d : Disk) (cwd place : Place) (node : Node) : Prop where
  located : d.locateNode cwd false area.path = .ok (place, node)
  kind : node = .directory ∨ ∃ target, node = .link target

/-- An area can be closed exactly if it stands somewhere, and then what is there is cut out. -/
lemma close_eq_ok_iff :
    area.close d cwd = .ok d' ↔ ∃ place node, area.StandsAt d cwd place node ∧ d' = d.cut place := by
  constructor
  · intro h
    unfold close Disk.removeTree at h
    cases hlocate : d.locateNode cwd false area.path with
    | error fault => simp [hlocate] at h
    | ok found =>
      obtain ⟨place, node⟩ := found
      rw [hlocate] at h
      cases node with
      | directory =>
        cases h
        exact ⟨place, _, ⟨hlocate, .inl rfl⟩, rfl⟩
      | link target =>
        cases h
        exact ⟨place, _, ⟨hlocate, .inr ⟨target, rfl⟩⟩, rfl⟩
      | _ => cases h
  · rintro ⟨place, node, ⟨hlocate, rfl | ⟨target, rfl⟩⟩, rfl⟩ <;>
      simp only [close, Disk.removeTree, hlocate]

lemma drop_of_close_ok (h : area.close d cwd = .ok d') : area.drop d cwd = d' := by
  rw [drop, h]

lemma drop_of_close_error {failure : Failure} (h : area.close d cwd = .error failure) :
    area.drop d cwd = d := by
  rw [drop, h]

/-- Whatever has happened since an area was made, it can be closed exactly if its path is a directory
or a link. Then the tree there is lost and nothing else, of a link the link alone, and nothing is
left at the path. If it cannot be closed, the failure names its path. Dropping it leaves the disk as
closing does. -/
theorem close_and_drop_remove_exactly {names : Nat → String}
    (slashless : ∀ n, '/' ∉ (names n).toList) {d₀ d₁ : Disk} {cwd₀ : Place} {root : Path}
    {drawn drawn' : Nat} {area : StagingArea}
    (created : create d₀ cwd₀ root names drawn = (drawn', .ok (area, d₁)))
    {d : Disk} (tree : d.WellFormed) (cwd : Place) :
    ((∃ d', area.close d cwd = .ok d') ↔ ∃ place node, area.StandsAt d cwd place node) ∧
    (∀ place node, area.StandsAt d cwd place node →
      ∃ d', area.close d cwd = .ok d' ∧ area.drop d cwd = d' ∧ d.Loses place d' ∧
        (node.isLink = true → ∀ q, q ≠ place → d'.entry? q = d.entry? q) ∧
        ∀ cwd', d'.linkOrNode? cwd' area.path = none) ∧
    ((¬∃ place node, area.StandsAt d cwd place node) →
      (∃ fault, area.close d cwd = .error (.cleanup area.path fault)) ∧ area.drop d cwd = d) := by
  obtain ⟨parent, n, rfl⟩ := exists_below_of_create created
  have hname := isProper_directoryName (slashless n)
  refine ⟨⟨?_, ?_⟩, fun place node stands => ?_, fun gone => ?_⟩
  · rintro ⟨d', closed⟩
    obtain ⟨place, node, stands, -⟩ := close_eq_ok_iff.mp closed
    exact ⟨place, node, stands⟩
  · rintro ⟨place, node, stands⟩
    exact ⟨_, close_eq_ok_iff.mpr ⟨place, node, stands, rfl⟩⟩
  · have closed := close_eq_ok_iff.mpr ⟨place, node, stands, rfl⟩
    obtain ⟨⟨above, hplace⟩, hnode⟩ :=
      Disk.locate_child_taken hname (Disk.locateNode_eq_ok_iff.mp stands.located)
    have loses : d.Loses place (d.cut place) := Disk.loses_cut tree (by simp [hplace])
    refine ⟨_, closed, drop_of_close_ok closed, loses, fun hlink q hq => ?_,
      (removes_of_close_ok (slashless n) closed).2⟩
    exact loses.entry?_of_ne tree hnode (by rintro rfl; cases hlink) hq
  · rcases close_cases (below parent (names n)) d cwd with ⟨fault, stuck⟩ | ⟨d', closed⟩
    · exact ⟨⟨fault, stuck⟩, drop_of_close_error stuck⟩
    · obtain ⟨place, node, stands, -⟩ := close_eq_ok_iff.mp closed
      exact absurd ⟨place, node, stands⟩ gone

/-- A disk with a directory for staging and one that holds a note. -/
def roomyDisk : Disk :=
  ⟨[(["tmp"], ⟨.directory, 1, Mode.directory, 0⟩), (["keep"], ⟨.directory, 2, Mode.directory, 0⟩),
    (["keep", "note"], ⟨.file "dear".toUTF8, 3, Mode.file, 0⟩)], 4, 0⟩

/-- That disk when an area has been made on it and then filled with a pipe, a link to the directory
above, one to itself and one to what is kept. -/
def tangledDisk : Disk :=
  ⟨roomyDisk.entries ++
    [(["tmp", "codeblock-aaaaaa"], ⟨.directory, 4, Mode.secluded, 0⟩),
      (["tmp", "codeblock-aaaaaa", "in"], ⟨.directory, 5, Mode.directory, 0⟩),
      (["tmp", "codeblock-aaaaaa", "in", "up"], ⟨.link ⟨".."⟩, 6, Mode.unrestricted, 0⟩),
      (["tmp", "codeblock-aaaaaa", "in", "self"], ⟨.link ⟨"self"⟩, 7, Mode.unrestricted, 0⟩),
      (["tmp", "codeblock-aaaaaa", "in", "out"], ⟨.link ⟨"/keep"⟩, 8, Mode.unrestricted, 0⟩),
      (["tmp", "codeblock-aaaaaa", "pipe"], ⟨.pipe, 9, Mode.file, 0⟩)], 10, 0⟩

/-- That disk when the directory of the area has been moved away and a link to what is kept is in its
place. -/
def replacedDisk : Disk :=
  ⟨roomyDisk.entries ++
    [(["tmp", "away"], ⟨.directory, 4, Mode.secluded, 0⟩),
      (["tmp", "codeblock-aaaaaa"], ⟨.link ⟨"/keep"⟩, 5, Mode.unrestricted, 0⟩)], 6, 0⟩

/-- Both times the area is closed, and what is kept is still there. -/
theorem close_and_drop_remove_exactly_tangled :
    ∃ area d₁, create roomyDisk [] ⟨"tmp"⟩ (fun _ => "aaaaaa") 0 = (1, .ok (area, d₁)) ∧
      tangledDisk.WellFormed ∧ replacedDisk.WellFormed ∧
      (∃ d', area.close tangledDisk ["keep"] = .ok d' ∧ area.drop tangledDisk ["keep"] = d' ∧
        d'.entry? ["tmp", "codeblock-aaaaaa", "in", "out"] = none ∧
        d'.entry? ["keep", "note"] = roomyDisk.entry? ["keep", "note"]) ∧
      ∃ d', area.close replacedDisk [] = .ok d' ∧ area.drop replacedDisk [] = d' ∧
        d'.entry? ["tmp", "codeblock-aaaaaa"] = none ∧
        d'.entry? ["tmp", "away"] = replacedDisk.entry? ["tmp", "away"] ∧
        d'.entry? ["keep", "note"] = roomyDisk.entry? ["keep", "note"] := by
  have created : create roomyDisk [] ⟨"tmp"⟩ (fun _ => "aaaaaa") 0 =
      (1, .ok (below ["tmp"] "aaaaaa",
        roomyDisk.add ["tmp", "codeblock-aaaaaa"] .directory Mode.secluded)) := by
    decide +kernel
  have slashless : ∀ n, '/' ∉ ((fun _ => "aaaaaa" : Nat → String) n).toList :=
    fun _ => (by decide : '/' ∉ "aaaaaa".toList)
  have tangled : tangledDisk.WellFormed := by decide
  have replaced : replacedDisk.WellFormed := by decide
  refine ⟨_, _, created, tangled, replaced, ?_, ?_⟩
  · obtain ⟨-, removes, -⟩ := close_and_drop_remove_exactly slashless created tangled ["keep"]
    obtain ⟨d', closed, dropped, loses, -⟩ :=
      removes ["tmp", "codeblock-aaaaaa"] .directory ⟨by decide +kernel, .inl rfl⟩
    exact ⟨d', closed, dropped, by rw [loses.entries]; decide, by rw [loses.entries]; decide⟩
  · obtain ⟨-, removes, -⟩ := close_and_drop_remove_exactly slashless created replaced []
    obtain ⟨d', closed, dropped, loses, alone, -⟩ :=
      removes ["tmp", "codeblock-aaaaaa"] (.link ⟨"/keep"⟩) ⟨by decide +kernel, .inr ⟨_, rfl⟩⟩
    exact ⟨d', closed, dropped, by rw [loses.entries]; decide, alone rfl _ (by decide),
      alone rfl _ (by decide)⟩

end StagingArea

end SnippetForge
