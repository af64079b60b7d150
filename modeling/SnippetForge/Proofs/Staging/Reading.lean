import SnippetForge.Proofs.Staging.Hosts

/-!
# Reading in two areas

Two areas need not hold the same for a path to be read alike in both. It is enough that a walk along
its names meets the same in both and never leaves either. `WalksAlike` says so of what lies below
the areas, whatever the disks around them hold.
-/

namespace SnippetForge

/-- A walk along names meets the same in two directories and does not leave them. A link may be
followed if it is relative. -/
inductive WalksAlike (c c' : Content) : Place → List String → Prop
  | arrived {rel : Place} : WalksAlike c c' rel []
  | current {rel : Place} {rest : List String} (further : WalksAlike c c' rel rest) :
      WalksAlike c c' rel ("." :: rest)
  | up {rel : Place} {name : String} {rest : List String} (further : WalksAlike c c' rel rest) :
      WalksAlike c c' (rel ++ [name]) (".." :: rest)
  | missing {rel : Place} {name : String} {rest : List String} (hname : IsProper name)
      (h : c (rel ++ [name]) = none) (h' : c' (rel ++ [name]) = none) :
      WalksAlike c c' rel (name :: rest)
  | node {rel : Place} {name : String} {rest : List String} {e e' : Entry}
      (h : c (rel ++ [name]) = some e) (h' : c' (rel ++ [name]) = some e')
      (node : e'.node = e.node) (mode : e'.mode = e.mode) (real : e.node.isLink = false)
      (further : WalksAlike c c' (rel ++ [name]) rest) : WalksAlike c c' rel (name :: rest)
  | link {rel : Place} {name : String} {rest : List String} {e e' : Entry} {target : Path}
      (h : c (rel ++ [name]) = some e) (h' : c' (rel ++ [name]) = some e')
      (node : e.node = .link target) (node' : e'.node = .link target)
      (relative : target.isAbsolute = false)
      (further : WalksAlike c c' rel (Disk.walkNames target ++ rest)) :
      WalksAlike c c' rel (name :: rest)

namespace StagingArea

variable {w w' : World} {parent : Place} {random random' : String}

/-- What two paths lead to on two disks looks the same, or there is nothing on either, or both fail
alike. -/
inductive Meets (d d' : Disk) :
    Except SystemError Disk.Spot → Except SystemError Disk.Spot → Prop
  | taken {q q' : Place} {e e' : Entry} (h : d.entry? q = some e) (h' : d'.entry? q' = some e')
      (node : e'.node = e.node) (mode : e'.mode = e.mode) :
      Meets d d' (.ok (.taken q e.node)) (.ok (.taken q' e.node))
  | free {q q' : Place} {name name' : String} :
      Meets d d' (.ok (.free q name)) (.ok (.free q' name'))
  | failed (error : SystemError) : Meets d d' (.error error) (.error error)

section

variable {d d' : Disk} {place place' : Place} {name : String} {rest : List String} {links : Nat}

/-- Walks that go on from nodes that look the same meet the same if they do so in directories. -/
lemma meets_of_directory {node : Node}
    (further : node = .directory →
      Meets d d' (Disk.resolve d true links place .directory (name :: rest))
        (Disk.resolve d' true links place' .directory (name :: rest))) :
    Meets d d' (Disk.resolve d true links place node (name :: rest))
      (Disk.resolve d' true links place' node (name :: rest)) := by
  by_cases hdirectory : node = .directory
  · subst hdirectory
    exact further rfl
  · rw [Disk.resolve_blocked hdirectory, Disk.resolve_blocked hdirectory]
    exact .failed _

/-- Walks meet the same at a name if they do so when it is looked up. -/
lemma meets_of_isSought (hname : IsProper name)
    (further : Disk.IsSought name →
      Meets d d' (Disk.resolve d true links place .directory (name :: rest))
        (Disk.resolve d' true links place' .directory (name :: rest))) :
    Meets d d' (Disk.resolve d true links place .directory (name :: rest))
      (Disk.resolve d' true links place' .directory (name :: rest)) := by
  by_cases hlong : Disk.maxName < name.utf8ByteSize
  · rw [Disk.resolve_long hname.ne_current hname.ne_up hlong,
      Disk.resolve_long hname.ne_current hname.ne_up hlong]
    exact .failed _
  · exact further ⟨hname.ne_current, hname.ne_up, Nat.not_lt.mp hlong⟩

end

/-- What is at a name below an area. -/
lemma contentOf_concat (w : World) (parent : Place) (random : String) (rel : Place)
    (name : String) :
    contentOf w parent random (rel ++ [name]) =
      w.disk.entry? (placeBelow parent random ++ rel ++ [name]) :=
  (Disk.contentBelow_of_ne_nil (by simp)).trans (by rw [List.append_assoc])

/-- Something is at the same place below two areas and looks the same. -/
def LooksAlike (w w' : World) (parent : Place) (random random' : String) (rel : Place)
    (node : Node) : Prop :=
  ∃ e e', w.disk.entry? (placeBelow parent random ++ rel) = some e ∧
    w'.disk.entry? (placeBelow parent random' ++ rel) = some e' ∧ e.node = node ∧
    e'.node = node ∧ e'.mode = e.mode

/-- What has something below it looks like a directory. -/
lemma LooksAlike.directory (h : Hosts w parent random) {rel : Place} {name : String} {node : Node}
    (looks : LooksAlike w w' parent random random' rel node) {e : Entry}
    (hbelow : w.disk.entry? (placeBelow parent random ++ rel ++ [name]) = some e) :
    node = .directory := by
  obtain ⟨f, -, hf, -, rfl, -⟩ := looks
  obtain ⟨g, hg, hdirectory⟩ := Disk.node?_eq_some_iff.mp (h.orderly.tree.node?_above hbelow)
  rw [hf] at hg
  cases hg
  exact hdirectory

/-- A walk that meets the same in two areas leads to what looks the same. -/
lemma meets_of_walksAlike (h : Hosts w parent random) (h' : Hosts w' parent random')
    {rel : Place} {names : List String}
    (alike : WalksAlike (contentOf w parent random) (contentOf w' parent random') rel names)
    {node : Node} (looks : LooksAlike w w' parent random random' rel node)
    (above : ∀ q, q <+: rel → q ≠ rel → LooksAlike w w' parent random random' q .directory)
    (links : Nat) :
    Meets w.disk w'.disk
      (Disk.resolve w.disk true links (placeBelow parent random ++ rel) node names)
      (Disk.resolve w'.disk true links (placeBelow parent random' ++ rel) node names) := by
  induction alike generalizing node links with
  | arrived =>
    obtain ⟨e, e', he, he', rfl, hnode, hmode⟩ := looks
    rw [Disk.resolve_nil, Disk.resolve_nil]
    exact .taken he he' hnode hmode
  | current further ih =>
    refine meets_of_directory fun hdirectory => ?_
    subst hdirectory
    rw [Disk.resolve_current, Disk.resolve_current]
    exact ih looks above links
  | @up rel name rest further ih =>
    refine meets_of_directory fun _ => ?_
    rw [Disk.resolve_up, Disk.resolve_up, ← List.append_assoc, ← List.append_assoc,
      List.dropLast_concat, List.dropLast_concat]
    refine ih (above rel (List.prefix_append _ _) (by simp)) (fun q hq hne => ?_) links
    refine above q (hq.trans (List.prefix_append _ _)) ?_
    rintro rfl
    exact absurd hq.length_le (by simp)
  | @missing rel name rest hname hfree hfree' =>
    refine meets_of_directory fun _ => meets_of_isSought hname fun hsought => ?_
    rw [contentOf_concat] at hfree hfree'
    obtain ⟨e, e', he, he', -⟩ := looks
    rw [Disk.resolve_missing hsought (Disk.node?_eq_none_iff.mpr hfree),
      Disk.resolve_missing hsought (Disk.node?_eq_none_iff.mpr hfree'), Disk.node?, Disk.node?,
      he, he', h.settled_append, h'.settled_append]
    cases rest with
    | nil => exact .free
    | cons _ _ => exact .failed _
  | @node rel name rest e e' he he' hnode hmode real further ih =>
    rw [contentOf_concat] at he he'
    obtain rfl := looks.directory h he
    have hfound := Disk.node?_eq_some_iff.mpr ⟨e, he, rfl⟩
    have hfound' := Disk.node?_eq_some_iff.mpr ⟨e', he', hnode⟩
    refine meets_of_isSought (h.orderly.tree.isProper_last hfound) fun hsought => ?_
    rw [Disk.resolve_node hsought hfound real, Disk.resolve_node hsought hfound' real,
      List.append_assoc, List.append_assoc]
    rw [List.append_assoc] at he he'
    refine ih ⟨e, e', he, he', rfl, hnode, hmode⟩ (fun q hq hne => ?_) links
    rcases List.prefix_concat_iff.mp hq with heq | hprefix
    · exact absurd heq hne
    · by_cases heq : q = rel
      · rw [heq]
        exact looks
      · exact above q hprefix heq
  | @link rel name rest e e' target he he' hnode hnode' relative further ih =>
    rw [contentOf_concat] at he he'
    obtain rfl := looks.directory h he
    have hfound := Disk.node?_eq_some_iff.mpr ⟨e, he, hnode⟩
    have hfound' := Disk.node?_eq_some_iff.mpr ⟨e', he', hnode'⟩
    refine meets_of_isSought (h.orderly.tree.isProper_last hfound) fun hsought => ?_
    have hstart : ∀ place, Disk.linkStart place target = place := by
      intro place
      rw [Disk.linkStart, relative, if_neg Bool.false_ne_true]
    rw [Disk.resolve_link hsought hfound fun _ => rfl, Disk.resolve_link hsought hfound' fun _ => rfl,
      hstart, hstart]
    cases links with
    | zero => exact .failed _
    | succ links => exact ih looks above links

/-- What is read by a path that meets the same in two areas is the same text or the same fault, and
it is a named pipe in both or in neither. -/
lemma Hosts.reads_alike (h : Hosts w parent random) (h' : Hosts w' parent random') {rel : Place}
    (hne : rel ≠ []) (hrel : ∀ n ∈ rel, IsProper n) (hnul : rel.any Path.hasNul = false)
    (alike : WalksAlike (contentOf w parent random) (contentOf w' parent random') [] rel) :
    w'.disk.readText w'.cwd ((below parent random').path.descend rel) =
        w.disk.readText w.cwd ((below parent random).path.descend rel) ∧
      (w'.toMachine.namedPipe? w'.cwd ((below parent random').path.descend rel)).isSome =
        (w.toMachine.namedPipe? w.cwd ((below parent random).path.descend rel)).isSome := by
  by_cases hlong : IsTooLong parent random rel
  · have hlocate := h.locate_of_isTooLong hrel hnul hlong w.disk true w.cwd
    have hlocate' := h'.locate_of_isTooLong hrel hnul
      ((isTooLong_iff h.lettered h'.lettered).mpr hlong) w'.disk true w'.cwd
    simp [Disk.readText, Disk.readBytes, Machine.namedPipe?, Disk.targetEntry?, Disk.locateEntry,
      Disk.locateNode, hlocate, hlocate']
  have hlocate := h.locate_descend hne hrel hnul hlong true w.cwd
  have hlocate' := h'.locate_descend hne hrel hnul
    (fun hlong' => hlong ((isTooLong_iff h.lettered h'.lettered).mp hlong')) true w'.cwd
  have hroot : LooksAlike w w' parent random random' [] .directory := by
    obtain ⟨e, he, hnode, hmode⟩ := h.made
    obtain ⟨e', he', hnode', hmode'⟩ := h'.made
    refine ⟨e, e', ?_, ?_, hnode, hnode', hmode'.trans hmode.symm⟩
    · rw [List.append_nil]
      exact he
    · rw [List.append_nil]
      exact he'
  have hmeets := meets_of_walksAlike h h' alike hroot
    (fun q hq hne => absurd (List.prefix_nil.mp hq) hne) Disk.maxLinks
  rw [List.append_nil, List.append_nil] at hmeets
  generalize Disk.resolve w.disk true Disk.maxLinks (placeBelow parent random) .directory rel = spot
    at hmeets hlocate
  generalize Disk.resolve w'.disk true Disk.maxLinks (placeBelow parent random') .directory rel =
    spot' at hmeets hlocate'
  cases hmeets with
  | @taken q q' e e' he he' hnode hmode =>
    simp only at hlocate hlocate'
    simp [Disk.readText, Disk.readBytes, Machine.namedPipe?, Disk.targetEntry?, Disk.locateEntry,
      Disk.locateNode, hlocate, hlocate', he, he', hnode, hmode]
    split <;> rfl
  | free =>
    simp only at hlocate hlocate'
    simp [Disk.readText, Disk.readBytes, Machine.namedPipe?, Disk.targetEntry?, Disk.locateEntry,
      Disk.locateNode, hlocate, hlocate']
  | failed error =>
    simp only at hlocate hlocate'
    simp [Disk.readText, Disk.readBytes, Machine.namedPipe?, Disk.targetEntry?, Disk.locateEntry,
      Disk.locateNode, hlocate, hlocate']

end StagingArea

end SnippetForge
