import SnippetForge.Proofs.Disk.Trees

/-!
# Making and removing children

What making a directory and removing a tree do at a path that ends with a name. The name is made at
a free place that the path leads to; removing cuts out the place that the path leads to while a
last link is not followed, and then the path leads nowhere any more. If nothing can be removed,
there was no directory.
-/

namespace SnippetForge.Disk

variable {d d' : Disk}

/-- A path that ends with a name loses nothing with the slashes at its end. -/
lemma dropEndSlashes_child (p : Path) {name : String} (hname : IsProper name) :
    dropEndSlashes (p.child name) = p.child name := by
  have hend := Path.endsWithSlash_child p hname.slashless hname.ne_empty
  unfold Path.endsWithSlash at hend
  unfold dropEndSlashes
  rcases List.eq_nil_or_concat (p.child name).text.toList with hnil | ⟨cs, c, hcs⟩
  · rw [hnil]
    rfl
  · rw [List.concat_eq_append] at hcs
    rw [hcs] at hend ⊢
    have hc : (c == '/') = false := by simpa using hend
    have hdrop : (List.dropWhile (· == '/') (cs ++ [c]).reverse).reverse = cs ++ [c] := by
      simp [hc]
    rw [hdrop]
    cases hlist : cs ++ [c] with
    | nil => simp at hlist
    | cons head rest =>
      simp only
      rw [← hlist, ← hcs, String.ofList_toList]

/-- A child that can be made is free in a directory that its path leads to. -/
lemma freePlace_child {p : Path} {name : String} (hname : IsProper name) {cwd place : Place}
    (h : d.freePlace cwd (p.child name) = .ok place) :
    ∃ used left above, maxLinks = used + left ∧ IsSought name ∧
      Arrives d used (startOf cwd (p.child name)) .directory p.names above .directory ∧
      place = above ++ [name] ∧ d.entry? place = none := by
  unfold freePlace at h
  rw [dropEndSlashes_child p hname] at h
  split at h
  · next parent n hlocate =>
    split at h
    · obtain ⟨used, left, above, hlinks, hsought, harr, hend⟩ := exists_arrives_child hname hlocate
      obtain ⟨rfl, rfl, hnone, -, -⟩ := resolve_last_eq_free hname hend
      cases h
      exact ⟨used, left, parent, hlinks, hsought, harr, rfl, node?_eq_none_iff.mp hnone⟩
    · cases h
  · cases h
  · cases h

/-- A directory that can be made at once needs none above it. -/
lemma makeDirectories_of_makeDirectory {p : Path} {cwd : Place} (hne : p.text ≠ "")
    (h : d.makeDirectory cwd p Mode.directory = .ok d') : d.makeDirectories cwd p = .ok d' := by
  unfold makeDirectories
  rw [if_neg hne]
  cases p.segments.length with
  | zero =>
    unfold ensureDirectories ensureDirectory
    rw [h]
  | succ fuel =>
    unfold ensureDirectories
    rw [h]

/-- What a path that ends with a name removes: the node it leads to, a last link not followed, with
everything below. Then nothing is left there. -/
lemma removeTree_child_ok {p : Path} {name : String} (hname : IsProper name) {cwd : Place}
    (h : d.removeTree cwd (p.child name) = .ok d') :
    ∃ root node, root ≠ [] ∧ d.locateNode cwd false (p.child name) = .ok (root, node) ∧
      (node = .directory ∨ ∃ target, node = .link target) ∧ d' = d.cut root := by
  unfold removeTree at h
  have hroot : ∀ {root node}, d.locateNode cwd false (p.child name) = .ok (root, node) →
      root ≠ [] := by
    intro root node hlocate
    unfold locateNode at hlocate
    split at hlocate
    · next hspot =>
      cases hlocate
      obtain ⟨⟨above, rfl⟩, -⟩ := locate_child_taken hname hspot
      simp
    · cases hlocate
    · cases hlocate
  split at h
  · next root hlocate =>
    cases h
    exact ⟨root, .directory, hroot hlocate, hlocate, .inl rfl, rfl⟩
  · next root target hlocate =>
    cases h
    exact ⟨root, .link target, hroot hlocate, hlocate, .inr ⟨target, rfl⟩, rfl⟩
  · cases h
  · cases h

/-- A path that does not lead to a node while a last link is not followed leads to no directory. -/
lemma isDirectory_child_eq_false {p : Path} {name : String} (hname : IsProper name) {cwd : Place}
    (h : d.linkOrNode? cwd (p.child name) = none) : d.isDirectory cwd (p.child name) = false := by
  unfold isDirectory target?
  cases htarget : d.locateNode cwd true (p.child name) with
  | error fault => rfl
  | ok found =>
    obtain ⟨q, m, hlocate⟩ :=
      exists_locate_child_of_target hname (locateNode_eq_ok_iff.mp htarget)
    rw [linkOrNode?, locateNode_eq_ok_iff.mpr hlocate] at h
    cases h

/-- Nothing is left at a path that has been removed. -/
lemma linkOrNode?_of_removeTree_ok {p : Path} {name : String} (hname : IsProper name)
    {cwd : Place} (h : d.removeTree cwd (p.child name) = .ok d') :
    d'.linkOrNode? cwd (p.child name) = none := by
  obtain ⟨root, node, hroot, hlocate, -, rfl⟩ := removeTree_child_ok hname h
  unfold linkOrNode?
  cases hleft : (d.cut root).locateNode cwd false (p.child name) with
  | error fault => rfl
  | ok found =>
    -- What were left would have been there before, so it is the node that has been cut out.
    have hspot := locateNode_eq_ok_iff.mp hleft
    have hbefore := locate_child_mono (fun _ _ => node?_of_node?_cut hroot) hname hspot
    rw [locateNode_eq_ok_iff.mp hlocate] at hbefore
    cases hbefore
    obtain ⟨-, hnode⟩ := locate_child_taken hname hspot
    rw [node?, entry?_cut hroot, if_pos List.prefix_rfl] at hnode
    cases hnode

/-- A path whose tree cannot be removed leads to no directory. -/
lemma isDirectory_of_removeTree_error {p : Path} {name : String} (hname : IsProper name)
    {cwd : Place} {fault : Fault} (h : d.removeTree cwd (p.child name) = .error fault) :
    d.isDirectory cwd (p.child name) = false := by
  unfold removeTree at h
  cases hlocate : d.locateNode cwd false (p.child name) with
  | error fault => exact isDirectory_child_eq_false hname (by simp [linkOrNode?, hlocate])
  | ok found =>
    obtain ⟨q, node⟩ := found
    have hkind : node ≠ .directory ∧ node.isLink = false := by
      cases node <;> simp [hlocate, Node.isLink] at h ⊢
    have htarget := locate_child_of_not_link hname (locateNode_eq_ok_iff.mp hlocate) hkind.2
    unfold isDirectory target?
    rw [locateNode_eq_ok_iff.mpr htarget]
    cases node <;> simp at hkind ⊢

end SnippetForge.Disk
