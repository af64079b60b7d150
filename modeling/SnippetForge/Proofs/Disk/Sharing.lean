import SnippetForge.Proofs.Disk.Agreement
import SnippetForge.Proofs.Disk.Listings

/-!
# Disks that share a tree

Two disks share a tree if the same nodes with the same modes lie below a place of the one and a place
of the other, and none of them is a link. What else the disks hold, and how the two places come to be
reached, is left open. A path that is walked by way of these places and never leads up from there is
answered alike by both disks.
-/

namespace SnippetForge

/-- What an entry is and who may do what with it. -/
def Entry.seen (e : Entry) : Node × Mode :=
  (e.node, e.mode)

namespace Disk

variable {d d' : Disk} {place place' cwd cwd' : Place} {p : Path}

/-- Two disks have the same tree without links at two places. -/
structure SharesTree (d d' : Disk) (place place' : Place) : Prop where
  same : ∀ rel : Place,
    (d'.entry? (place' ++ rel)).map Entry.seen = (d.entry? (place ++ rel)).map Entry.seen
  real : ∀ (rel : Place) target, d.node? (place ++ rel) ≠ some (.link target)

namespace SharesTree

lemma node?_eq (h : SharesTree d d' place place') (rel : Place) :
    d'.node? (place' ++ rel) = d.node? (place ++ rel) := by
  have hsame := congrArg (Option.map Prod.fst) (h.same rel)
  rw [Option.map_map, Option.map_map] at hsame
  exact hsame

/-- Whether two disks share a tree can be told from their entries. -/
lemma of_entries (hplace : place ≠ []) (hplace' : place' ≠ [])
    (hthere : ∀ e ∈ d.entries, place <+: e.1 → e.2.node.isLink = false ∧
      (d'.entry? (place' ++ e.1.drop place.length)).map Entry.seen = some e.2.seen)
    (hback : ∀ e ∈ d'.entries, place' <+: e.1 →
      (d.entry? (place ++ e.1.drop place'.length)).map Entry.seen = some e.2.seen) :
    SharesTree d d' place place' := by
  have hmem : ∀ {rel : Place} {e : Entry}, d.entry? (place ++ rel) = some e →
      e.node.isLink = false ∧ (d'.entry? (place' ++ rel)).map Entry.seen = some e.seen := by
    intro rel e he
    have := hthere _ (mem_entries (by simp [hplace]) he) (List.prefix_append _ _)
    rwa [List.drop_left] at this
  constructor
  · intro rel
    cases he : d.entry? (place ++ rel) with
    | some e => exact (hmem he).2
    | none =>
      cases he' : d'.entry? (place' ++ rel) with
      | none => rfl
      | some e' =>
        have := hback _ (mem_entries (by simp [hplace']) he') (List.prefix_append _ _)
        rw [List.drop_left, he] at this
        cases this
  · intro rel target hnode
    obtain ⟨e, he, hlink⟩ := node?_eq_some_iff.mp hnode
    have hreal := (hmem he).1
    rw [hlink] at hreal
    cases hreal

/-- The directories of the tree have the same children. -/
lemma sortedChildren_eq (h : SharesTree d d' place place') (wf : d.WellFormed)
    (wf' : d'.WellFormed) (rel : Place) :
    d'.sortedChildren (place' ++ rel) = d.sortedChildren (place ++ rel) := by
  have hsorted := wf.pairwise_sortedChildren (place ++ rel)
  have hsorted' := wf'.pairwise_sortedChildren (place' ++ rel)
  have hnodup : ∀ {l : List (String × Node)}, (l.Pairwise fun a b => a.1 < b.1) → l.Nodup := by
    intro l hl
    rw [List.nodup_iff_pairwise_ne]
    exact hl.imp fun hlt heq => ne_of_lt hlt (congrArg Prod.fst heq)
  refine List.Perm.eq_of_pairwise (fun a b _ _ hab hba => absurd hab (lt_asymm hba)) hsorted'
    hsorted ((List.perm_ext_iff_of_nodup (hnodup hsorted') (hnodup hsorted)).mpr ?_)
  rintro ⟨name, node⟩
  rw [mem_sortedChildren, mem_sortedChildren, wf.mem_children, wf'.mem_children,
    List.append_assoc, List.append_assoc, h.node?_eq]

lemma mayList_eq (h : SharesTree d d' place place') (rel : Place) :
    d'.mayList (place' ++ rel) = d.mayList (place ++ rel) := by
  have hsame := h.same rel
  unfold mayList
  cases he : d.entry? (place ++ rel) <;> cases he' : d'.entry? (place' ++ rel) <;>
    simp_all [Entry.seen]

/-- What is read of an entry is the same. -/
lemma seen_getD (h : SharesTree d d' place place') (rel : Place) :
    ((d'.entry? (place' ++ rel)).getD .root).seen = ((d.entry? (place ++ rel)).getD .root).seen := by
  have hsame := h.same rel
  cases he : d.entry? (place ++ rel) <;> cases he' : d'.entry? (place' ++ rel) <;> simp_all

end SharesTree

/-! ### Where the tree is walked -/

/-- What names lead to if a free name counts as nothing. -/
def reached : Except SystemError Spot → Except SystemError (Place × Node)
  | .ok (.taken place node) => .ok (place, node)
  | .ok (.free _ _) => .error .noEntry
  | .error error => .error error

lemma locateNode_of_sound (hp : IsSound p) {followLast : Bool} :
    d.locateNode cwd followLast p =
      (reached (resolve d followLast maxLinks (startOf cwd p) .directory (walkNames p))).mapError
        .system := by
  rw [locateNode, locate_of_sound hp]
  rcases resolve d followLast maxLinks (startOf cwd p) .directory (walkNames p) with _ | _ | _ <;> rfl

/-- A path that cannot be followed fails alike on all disks. -/
lemma exists_locate_of_not_isSound (h : ¬IsSound p) (followLast : Bool) :
    ∃ fault, ∀ (d : Disk) (cwd : Place), d.locate cwd followLast p = .error fault := by
  by_cases hne : p.text = ""
  · refine ⟨.system .noEntry, fun d cwd => ?_⟩
    simp [locate, hne]
  · obtain ⟨fault, -, hfault, -⟩ := @locate_of_not_isSound followLast _ _ hne h rfl rfl
    exact ⟨fault, hfault⟩

/-- A path leads to the same place of a shared tree on both disks, or it leads nowhere on both and
for the same reason. -/
inductive LeadsAlike (d d' : Disk) (place place' cwd cwd' : Place) (p : Path) : Prop
  | there {rel : Place} {node : Node} (h : d.locateNode cwd true p = .ok (place ++ rel, node))
      (h' : d'.locateNode cwd' true p = .ok (place' ++ rel, node))
  | nowhere {fault : Fault} (h : d.locateNode cwd true p = .error fault)
      (h' : d'.locateNode cwd' true p = .error fault)

/-- Within a shared tree the same names lead to the same place, unless they lead up. -/
lemma SharesTree.resolve_eq (h : SharesTree d d' place place') {names : List String}
    (hup : ".." ∉ names) (links links' : Nat) (rel : Place) (node : Node) :
    (∃ rel' m, resolve d true links (place ++ rel) node names = .ok (.taken (place ++ rel') m) ∧
        resolve d' true links' (place' ++ rel) node names = .ok (.taken (place' ++ rel') m)) ∨
      ∃ error, reached (resolve d true links (place ++ rel) node names) = .error error ∧
        reached (resolve d' true links' (place' ++ rel) node names) = .error error := by
  induction names generalizing rel node with
  | nil => exact .inl ⟨rel, node, resolve_nil _ _ _, resolve_nil _ _ _⟩
  | cons name names ih =>
    obtain ⟨hname, hmore⟩ : name ≠ ".." ∧ ".." ∉ names := by
      simpa [eq_comm] using hup
    by_cases hdirectory : node = .directory
    swap
    · rw [resolve_blocked hdirectory, resolve_blocked hdirectory]
      exact .inr ⟨_, rfl, rfl⟩
    subst hdirectory
    by_cases hcurrent : name = "."
    · subst hcurrent
      rw [resolve_current, resolve_current]
      exact ih hmore rel .directory
    by_cases hlong : maxName < name.utf8ByteSize
    · rw [resolve_long hcurrent hname hlong, resolve_long hcurrent hname hlong]
      exact .inr ⟨_, rfl, rfl⟩
    have hsought : IsSought name := ⟨hcurrent, hname, Nat.not_lt.mp hlong⟩
    have hsame := h.node?_eq (rel ++ [name])
    rw [← List.append_assoc, ← List.append_assoc] at hsame
    cases hnode : d.node? (place ++ rel ++ [name]) with
    | none =>
      -- A free name and a missing one are told apart by the directory, but both are nothing.
      rw [hnode] at hsame
      refine .inr ⟨.noEntry, ?_, ?_⟩
      · rw [resolve_missing hsought hnode]
        split <;> rfl
      · rw [resolve_missing hsought hsame]
        split <;> rfl
    | some found =>
      rw [hnode] at hsame
      have hreal : found.isLink = false := by
        cases found with
        | link target =>
          rw [List.append_assoc] at hnode
          exact absurd hnode (h.real _ target)
        | _ => rfl
      rw [resolve_node hsought hnode hreal, resolve_node hsought hsame hreal, List.append_assoc,
        List.append_assoc]
      exact ih hmore (rel ++ [name]) found

/-- A path that goes by way of a shared tree is led alike by both disks. -/
lemma SharesTree.leadsAlike (h : SharesTree d d' place place') {front more : List String}
    (hwalk : walkNames p = front ++ more) (hup : ".." ∉ more) {used used' left left' : Nat}
    (hlinks : maxLinks = used + left) (hlinks' : maxLinks = used' + left')
    (harr : Arrives d used (startOf cwd p) .directory front place .directory)
    (harr' : Arrives d' used' (startOf cwd' p) .directory front place' .directory) :
    LeadsAlike d d' place place' cwd cwd' p := by
  by_cases hp : IsSound p
  swap
  · obtain ⟨fault, hfault⟩ := exists_locate_of_not_isSound hp true
    have hnowhere : ∀ (d : Disk) (cwd : Place), d.locateNode cwd true p = .error fault := by
      intro d cwd
      rw [locateNode, hfault]
    exact .nowhere (hnowhere d cwd) (hnowhere d' cwd')
  have hfirst : d.locateNode cwd true p =
      (reached (resolve d true left (place ++ []) .directory more)).mapError .system := by
    rw [locateNode_of_sound hp, hwalk, hlinks, harr.resolve_append fun _ => rfl, List.append_nil]
  have hsecond : d'.locateNode cwd' true p =
      (reached (resolve d' true left' (place' ++ []) .directory more)).mapError .system := by
    rw [locateNode_of_sound hp, hwalk, hlinks', harr'.resolve_append fun _ => rfl, List.append_nil]
  rcases h.resolve_eq hup left left' [] .directory with ⟨rel, m, hthere, hthere'⟩ | ⟨error, hno, hno'⟩
  · rw [hthere] at hfirst
    rw [hthere'] at hsecond
    exact .there hfirst hsecond
  · rw [hno] at hfirst
    rw [hno'] at hsecond
    exact .nowhere hfirst hsecond

/-! ### The same answers -/

namespace LeadsAlike

variable (alike : LeadsAlike d d' place place' cwd cwd' p)

include alike in
lemma target?_eq : d'.target? cwd' p = d.target? cwd p := by
  unfold target?
  cases alike with
  | there h h' => rw [h, h']
  | nowhere h h' => rw [h, h']

include alike in
lemma isDirectory_eq : d'.isDirectory cwd' p = d.isDirectory cwd p := by
  rw [isDirectory, isDirectory, alike.target?_eq]

include alike in
lemma isFile_eq : d'.isFile cwd' p = d.isFile cwd p := by
  rw [isFile, isFile, alike.target?_eq]

include alike in
lemma list_eq (h : SharesTree d d' place place') (wf : d.WellFormed) (wf' : d'.WellFormed) :
    d'.list cwd' p = d.list cwd p := by
  unfold list
  cases alike with
  | nowhere hno hno' => rw [hno, hno']
  | @there rel node hthere hthere' =>
    rw [hthere, hthere']
    cases node <;> simp only [h.mayList_eq, h.sortedChildren_eq wf wf']

include alike in
lemma readText_eq (h : SharesTree d d' place place') : d'.readText cwd' p = d.readText cwd p := by
  have hbytes : d'.readBytes cwd' p = d.readBytes cwd p := by
    unfold readBytes locateEntry
    cases alike with
    | nowhere hno hno' => rw [hno, hno']
    | @there rel node hthere hthere' =>
      have hseen := h.seen_getD rel
      simp only [Entry.seen, Prod.mk.injEq] at hseen
      rw [hthere, hthere']
      simp only [hseen.1, hseen.2]
  rw [readText, readText, hbytes]

end LeadsAlike

end Disk

end SnippetForge
