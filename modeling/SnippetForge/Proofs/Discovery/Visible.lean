import SnippetForge.Discovery
import SnippetForge.Proofs.Disk.Listings
import SnippetForge.Proofs.Text.Bytes

/-!
# The visible files of a directory

Which files discovery is to find, said without a walk: `IsVisible` lists the conditions on the names
below a base directory. Then a walk over places that finds exactly those files, in the order of the
bytes of their names, one component after the other. Paths do not occur here; that the walk of
discovery, which goes by paths, finds the same is the subject of `Resolution`.
-/

namespace SnippetForge.Discovery

variable {d : Disk} {suffix : String}

/-! ### What is to be found -/

/-- A directory below a base directory is open: nothing on the way to it is hidden, and everything
on the way is a real directory. What the base is called does not matter. -/
structure IsOpen (d : Disk) (base dirs : Place) : Prop where
  shown : ∀ n ∈ dirs, isHidden n = false
  real : ∀ above, above <+: dirs → above ≠ [] → d.node? (base ++ above) = some .directory

/-- A file below a base directory is visible: it is held by an open directory and not hidden, its
own name has the suffix, and it is a regular file once links are followed from that directory. -/
structure IsVisible (d : Disk) (suffix : String) (base dirs : Place) (name : String) : Prop where
  inside : IsOpen d base dirs
  shown : isHidden name = false
  held : (d.node? (base ++ dirs ++ [name])).isSome = true
  named : hasSuffix suffix name = true
  regular : d.isFile (base ++ dirs) ⟨name⟩ = true

lemma isOpen_nil (d : Disk) (base : Place) : IsOpen d base [] :=
  ⟨by simp, fun _ habove hne => absurd (List.prefix_nil.mp habove) hne⟩

/-- A directory is open from a base exactly if it is open from the next one on the way, and that
one is real and not hidden. -/
lemma isOpen_cons {base dirs : Place} {first : String} :
    IsOpen d base (first :: dirs) ↔
      isHidden first = false ∧ d.node? (base ++ [first]) = some .directory ∧
        IsOpen d (base ++ [first]) dirs := by
  have hplace : ∀ rest : Place, base ++ first :: rest = base ++ [first] ++ rest := by simp
  constructor
  · rintro ⟨shown, real⟩
    refine ⟨shown first (by simp), real [first] (by simp) (by simp), ?_, ?_⟩
    · exact fun n hn => shown n (List.mem_cons_of_mem _ hn)
    · intro above habove _
      rw [← hplace]
      exact real _ (List.cons_prefix_cons.mpr ⟨rfl, habove⟩) (by simp)
  · rintro ⟨hfirst, hnode, shown, real⟩
    refine ⟨?_, ?_⟩
    · intro n hn
      rcases List.mem_cons.mp hn with rfl | hn
      · exact hfirst
      · exact shown n hn
    · intro above habove hne
      obtain ⟨n, rest, rfl⟩ := List.exists_cons_of_ne_nil hne
      obtain ⟨rfl, hrest⟩ := List.cons_prefix_cons.mp habove
      rw [hplace]
      by_cases hnil : rest = []
      · rw [hnil, List.append_nil]
        exact hnode
      · exact real rest hrest hnil

lemma isVisible_cons {base dirs : Place} {first name : String} :
    IsVisible d suffix base (first :: dirs) name ↔
      isHidden first = false ∧ d.node? (base ++ [first]) = some .directory ∧
        IsVisible d suffix (base ++ [first]) dirs name := by
  have hplace : base ++ first :: dirs = base ++ [first] ++ dirs := by simp
  constructor
  · rintro ⟨inside, shown, held, named, regular⟩
    obtain ⟨hfirst, hnode, inside⟩ := isOpen_cons.mp inside
    rw [hplace] at held regular
    exact ⟨hfirst, hnode, inside, shown, held, named, regular⟩
  · rintro ⟨hfirst, hnode, inside, shown, held, named, regular⟩
    rw [← hplace] at held regular
    exact ⟨isOpen_cons.mpr ⟨hfirst, hnode, inside⟩, shown, held, named, regular⟩

/-! ### Finding it -/

/-- No entry is deeper than the depth of its disk. -/
lemma le_depth {e : Place × Entry} (h : e ∈ d.entries) : e.1.length ≤ depth d := by
  have hfold : ∀ (entries : List (Place × Entry)) (n : Nat),
      n ≤ entries.foldl (fun n e => max n e.1.length) n ∧
        ∀ e ∈ entries, e.1.length ≤ entries.foldl (fun n e => max n e.1.length) n := by
    intro entries
    induction entries with
    | nil => simp
    | cons first rest ih =>
      intro n
      obtain ⟨hstart, hrest⟩ := ih (max n first.1.length)
      refine ⟨(Nat.le_max_left _ _).trans hstart, fun e he => ?_⟩
      rcases List.mem_cons.mp he with rfl | he
      · exact (Nat.le_max_right _ _).trans hstart
      · exact hrest e he
  exact (hfold d.entries 0).2 e h


/-- The name of a directory is not that of a regular file. -/
lemma isFile_of_directory {place : Place} {name : String} (hname : IsProper name)
    (h : d.node? (place ++ [name]) = some .directory) : d.isFile place ⟨name⟩ = false := by
  by_contra hfile
  obtain ⟨q, content, hlocate⟩ := Disk.isFile_eq_true_iff.mp (by simpa using hfile)
  cases Disk.taken_of_locate_name hname h rfl hlocate

/-- What is found at a child of a directory, as seen from that directory. `enter` goes into a
directory below. -/
def foundAt (d : Disk) (suffix : String) (enter : Place → List Place) (place : Place)
    (child : String × Node) : List Place :=
  if isHidden child.1 then []
  else
    match child.2 with
    | .directory => (enter (place ++ [child.1])).map (child.1 :: ·)
    | _ => if hasSuffix suffix child.1 && d.isFile place ⟨child.1⟩ then [[child.1]] else []

/-- What is found below a place, at most `fuel` names deep. -/
def found (d : Disk) (suffix : String) : (fuel : Nat) → Place → List Place
  | 0, _ => []
  | fuel + 1, place =>
    (d.sortedChildren place).flatMap (foundAt d suffix (found d suffix fuel) place)

lemma foundAt_directory (enter : Place → List Place) (place : Place) (name : String) :
    foundAt d suffix enter place (name, .directory) =
      if isHidden name then [] else (enter (place ++ [name])).map (name :: ·) := rfl

lemma foundAt_of_ne_directory (enter : Place → List Place) (place : Place) (name : String)
    {node : Node} (h : node ≠ .directory) :
    foundAt d suffix enter place (name, node) =
      if isHidden name then []
      else if hasSuffix suffix name && d.isFile place ⟨name⟩ then [[name]] else [] := by
  cases node with
  | directory => exact absurd rfl h
  | _ => rfl

/-- Something is found at a child if it is a file of its own or found below it. -/
lemma mem_foundAt {enter : Place → List Place} {place rel : Place} {name : String} {node : Node}
    (hname : IsProper name) (hnode : d.node? (place ++ [name]) = some node) :
    rel ∈ foundAt d suffix enter place (name, node) ↔
      isHidden name = false ∧
        ((rel = [name] ∧ hasSuffix suffix name = true ∧ d.isFile place ⟨name⟩ = true) ∨
          (node = .directory ∧ ∃ rest ∈ enter (place ++ [name]), rel = name :: rest)) := by
  by_cases hdirectory : node = .directory
  · subst hdirectory
    rw [foundAt_directory]
    cases isHidden name <;> simp [isFile_of_directory hname hnode, @eq_comm _ rel]
  · rw [foundAt_of_ne_directory enter place name hdirectory]
    cases isHidden name <;> cases hasSuffix suffix name <;> cases d.isFile place ⟨name⟩ <;>
      simp [hdirectory]

/-- What is found at a child begins with its name. -/
lemma exists_of_mem_foundAt {enter : Place → List Place} {place rel : Place}
    {child : String × Node} (h : rel ∈ foundAt d suffix enter place child) :
    ∃ rest, rel = child.1 :: rest := by
  unfold foundAt at h
  split at h
  · cases h
  · split at h
    · obtain ⟨rest, -, rfl⟩ := List.mem_map.mp h
      exact ⟨rest, rfl⟩
    · split at h
      · exact ⟨[], List.mem_singleton.mp h⟩
      · cases h

/-- What is found is in the order of its bytes, component by component. -/
lemma pairwise_found (wf : d.WellFormed) (fuel : Nat) (place : Place) :
    (found d suffix fuel place).Pairwise fun a b => a.map Text.bytes < b.map Text.bytes := by
  induction fuel generalizing place with
  | zero => exact List.Pairwise.nil
  | succ fuel ih =>
    rw [found, List.pairwise_flatMap]
    constructor
    · intro child _
      unfold foundAt
      split
      · exact List.Pairwise.nil
      · split
        · rw [List.pairwise_map]
          exact (ih _).imp fun h => List.Lex.cons h
        · split
          · exact List.pairwise_singleton _ _
          · exact List.Pairwise.nil
    · refine (wf.pairwise_sortedChildren place).imp fun {child child'} hlt a ha b hb => ?_
      obtain ⟨rest, rfl⟩ := exists_of_mem_foundAt ha
      obtain ⟨rest', rfl⟩ := exists_of_mem_foundAt hb
      exact List.Lex.rel (Text.bytes_lt_bytes hlt)

/-- What is found below a place are the visible files at most so many names deep. -/
lemma mem_found (wf : d.WellFormed) {fuel : Nat} {place rel : Place} :
    rel ∈ found d suffix fuel place ↔
      rel.length ≤ fuel ∧
        ∃ dirs name, rel = dirs ++ [name] ∧ IsVisible d suffix place dirs name := by
  induction fuel generalizing place rel with
  | zero =>
    constructor
    · intro h
      cases h
    · rintro ⟨hlength, dirs, name, rfl, -⟩
      simp at hlength
  | succ fuel ih =>
    simp only [found, List.mem_flatMap, Prod.exists, Disk.mem_sortedChildren, wf.mem_children]
    constructor
    · rintro ⟨first, node, hnode, hmem⟩
      obtain ⟨hshown, ⟨rfl, hsuffix, hfile⟩ | ⟨rfl, rest, hrest, rfl⟩⟩ :=
        (mem_foundAt (wf.isProper_last hnode) hnode).mp hmem
      · refine ⟨by simp, [], first, rfl, isOpen_nil d place, hshown, ?_, hsuffix, ?_⟩
        · simp [hnode]
        · simpa using hfile
      · obtain ⟨hlength, dirs, name, rfl, hvisible⟩ := ih.mp hrest
        exact ⟨Nat.succ_le_succ hlength, first :: dirs, name, rfl,
          isVisible_cons.mpr ⟨hshown, hnode, hvisible⟩⟩
    · rintro ⟨hlength, dirs, name, rfl, hvisible⟩
      cases dirs with
      | nil =>
        obtain ⟨-, hshown, hheld, hsuffix, hfile⟩ := hvisible
        rw [List.append_nil] at hheld hfile
        obtain ⟨node, hnode⟩ := Option.isSome_iff_exists.mp hheld
        exact ⟨name, node, hnode, (mem_foundAt (wf.isProper_last hnode) hnode).mpr
          ⟨hshown, .inl ⟨rfl, hsuffix, hfile⟩⟩⟩
      | cons first dirs =>
        obtain ⟨hshown, hnode, hvisible⟩ := isVisible_cons.mp hvisible
        have hrest := ih.mpr ⟨Nat.le_of_succ_le_succ hlength, dirs, name, rfl, hvisible⟩
        exact ⟨first, .directory, hnode, (mem_foundAt (wf.isProper_last hnode) hnode).mpr
          ⟨hshown, .inr ⟨rfl, _, hrest, rfl⟩⟩⟩

/-- A visible file is not deeper than the deepest place of the disk. -/
lemma IsVisible.length_le {base dirs : Place} {name : String}
    (h : IsVisible d suffix base dirs name) : (dirs ++ [name]).length ≤ depth d := by
  obtain ⟨node, hnode⟩ := Option.isSome_iff_exists.mp h.held
  obtain ⟨e, hentry, -⟩ := Disk.node?_eq_some_iff.mp hnode
  have hdeep := le_depth (Disk.mem_entries (by simp) hentry)
  simp only [List.length_append] at hdeep ⊢
  omega

end SnippetForge.Discovery
