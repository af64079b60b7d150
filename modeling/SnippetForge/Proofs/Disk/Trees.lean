import SnippetForge.Disk.Edit
import SnippetForge.Proofs.Disk.Walks

/-!
# Disks as trees

A disk is a list of entries, and what it denotes is the entry at each place. Here every change of
the list is described by the entries that it leaves. A disk is *well-formed* if the list is a tree:
no place has two entries, the place above an entry is a directory, every name on the way is proper,
and nodes that have the same number are the same node. Adding a node, changing one and cutting out a
tree keep it well-formed. The file systems of real machines are all of this kind.
-/

namespace SnippetForge.Disk

variable {d : Disk}

/-! ### Entries after a change -/

@[simp]
lemma entry?_nil (d : Disk) : d.entry? [] = some .root := rfl

lemma entry?_of_ne_nil {place : Place} (h : place ≠ []) :
    d.entry? place = d.entries.lookup place := by
  unfold entry?
  simp [h]

lemma node?_eq_none_iff {place : Place} : d.node? place = none ↔ d.entry? place = none := by
  simp [node?]

lemma node?_eq_some_iff {place : Place} {node : Node} :
    d.node? place = some node ↔ ∃ e, d.entry? place = some e ∧ e.node = node := by
  simp [node?]

/-- The entry that `add` puts at its place. -/
def newEntry (d : Disk) (node : Node) (mode : Mode) : Entry :=
  ⟨node, d.nextId, mode, d.stamp⟩

/-- A new node is at its place, and everything else is where it was. -/
lemma entry?_add {place : Place} (hfree : d.entry? place = none) (node : Node) (mode : Mode)
    (q : Place) :
    Disk.entry? (d.add place node mode) q =
      if q = place then some (d.newEntry node mode) else d.entry? q := by
  have hplace : place ≠ [] := by
    rintro rfl
    simp at hfree
  by_cases hq : q = []
  · subst hq
    simp [Ne.symm hplace]
  rw [entry?_of_ne_nil hq, entry?_of_ne_nil hq, add, List.lookup_append]
  rw [entry?_of_ne_nil hplace] at hfree
  by_cases heq : q = place
  · subst heq
    simp [hfree, newEntry]
  · have hne : (q == place) = false := by simpa using heq
    simp [List.lookup_cons, hne, heq]

/-- Whatever was there is there after a node has been added. -/
lemma node?_add_of_node? {place q : Place} (hfree : d.entry? place = none) {new node : Node}
    {mode : Mode} (h : d.node? q = some node) : (d.add place new mode).node? q = some node := by
  rw [node?, entry?_add hfree]
  split
  · next heq =>
    rw [heq, node?_eq_none_iff.mpr hfree] at h
    cases h
  · exact h

/-- The disk without the entries at places that are not kept. -/
def restrict (d : Disk) (keep : Place → Bool) : Disk :=
  { d with entries := d.entries.filter fun e => keep e.1 }

/-- A place that is not kept loses its entry, and nothing else is lost. -/
lemma entry?_restrict (d : Disk) (keep : Place → Bool) {q : Place} (hq : q ≠ []) :
    Disk.entry? (d.restrict keep) q = if keep q then d.entry? q else none := by
  rw [entry?_of_ne_nil hq, entry?_of_ne_nil hq, restrict]
  induction d.entries with
  | nil => simp
  | cons e rest ih =>
    obtain ⟨key, entry⟩ := e
    rw [List.lookup_cons]
    by_cases hkey : q = key
    · subst hkey
      cases hkeep : keep q with
      | true => simp [hkeep]
      | false => simpa [hkeep] using ih
    · have hne : (q == key) = false := by simpa using hkey
      rw [List.filter_cons]
      split
      · rw [List.lookup_cons, hne]
        exact ih
      · simpa [hne] using ih

lemma cut_eq_restrict (d : Disk) (place : Place) :
    d.cut place = d.restrict fun q => !place.isPrefixOf q := rfl

/-- A place that is cut out loses what is at it and below it, and nothing else. -/
lemma entry?_cut {place : Place} (hplace : place ≠ []) (q : Place) :
    Disk.entry? (d.cut place) q = if place <+: q then none else d.entry? q := by
  by_cases hq : q = []
  · subst hq
    simp [List.prefix_nil, hplace]
  rw [cut_eq_restrict, entry?_restrict d _ hq]
  by_cases hbelow : place <+: q
  · simp [hbelow, List.isPrefixOf_iff_prefix.mpr hbelow]
  · have hkeep : place.isPrefixOf q = false :=
      Bool.eq_false_iff.mpr fun h => hbelow (List.isPrefixOf_iff_prefix.mp h)
    simp [hbelow, hkeep]

/-- Whatever is left after a place is cut out was there before. -/
lemma node?_of_node?_cut {place q : Place} {node : Node} (hplace : place ≠ [])
    (h : (d.cut place).node? q = some node) : d.node? q = some node := by
  rw [node?, entry?_cut hplace] at h
  split at h
  · cases h
  · exact h

lemma entries_change (d : Disk) (id : Nat) (f : Entry → Entry) :
    (d.change id f).entries =
      d.entries.map fun e => (e.1, if e.2.id = id then f e.2 else e.2) := by
  refine List.map_congr_left fun e _ => ?_
  split <;> rfl

/-- A node that is changed is changed under all its names, and everything else is as it was. -/
lemma entry?_change {id : Nat} (hid : id ≠ Entry.root.id) (f : Entry → Entry) (q : Place) :
    Disk.entry? (d.change id f) q = (d.entry? q).map fun e => if e.id = id then f e else e := by
  by_cases hq : q = []
  · subst hq
    rw [entry?_nil, entry?_nil, Option.map_some, if_neg hid.symm]
  rw [entry?_of_ne_nil hq, entry?_of_ne_nil hq, entries_change]
  induction d.entries with
  | nil => rfl
  | cons e rest ih =>
    rw [List.map_cons, List.lookup_cons, List.lookup_cons, ih]
    cases q == e.1 <;> rfl

/-! ### Well-formed disks -/

/-- A disk that is a tree of numbered nodes. -/
structure WellFormed (d : Disk) : Prop where
  /-- No place has two entries. -/
  distinct : (d.entries.map (·.1)).Nodup
  /-- The root has no entry, and every name is proper. -/
  proper : ∀ e ∈ d.entries, e.1 ≠ [] ∧ ∀ name ∈ e.1, IsProper name
  /-- The place above an entry is a directory. -/
  rooted : ∀ e ∈ d.entries, d.node? e.1.dropLast = some .directory
  /-- The number of the root belongs to no entry, and the next one is new. -/
  numbered : ∀ e ∈ d.entries, Entry.root.id < e.2.id ∧ e.2.id < d.nextId
  unused : Entry.root.id < d.nextId
  /-- A number belongs to one node, and a directory has one name. -/
  shared : ∀ e ∈ d.entries, ∀ f ∈ d.entries, e.2.id = f.2.id →
    e.2 = f.2 ∧ (e.2.node = .directory → e.1 = f.1)

instance (d : Disk) : Decidable d.WellFormed :=
  decidable_of_iff
    ((d.entries.map (·.1)).Nodup ∧ (∀ e ∈ d.entries, e.1 ≠ [] ∧ ∀ name ∈ e.1, IsProper name) ∧
      (∀ e ∈ d.entries, d.node? e.1.dropLast = some .directory) ∧
      (∀ e ∈ d.entries, Entry.root.id < e.2.id ∧ e.2.id < d.nextId) ∧ Entry.root.id < d.nextId ∧
      ∀ e ∈ d.entries, ∀ f ∈ d.entries, e.2.id = f.2.id →
        e.2 = f.2 ∧ (e.2.node = .directory → e.1 = f.1))
    ⟨fun ⟨h₁, h₂, h₃, h₄, h₅, h₆⟩ => ⟨h₁, h₂, h₃, h₄, h₅, h₆⟩,
      fun ⟨h₁, h₂, h₃, h₄, h₅, h₆⟩ => ⟨h₁, h₂, h₃, h₄, h₅, h₆⟩⟩

lemma mem_entries {place : Place} {e : Entry} (hplace : place ≠ [])
    (h : d.entry? place = some e) : (place, e) ∈ d.entries := by
  rw [entry?_of_ne_nil hplace, List.lookup_eq_some_iff] at h
  obtain ⟨before, after, hentries, -⟩ := h
  simp [hentries]

/-- An entry of the list is what lies at its place. -/
lemma WellFormed.entry?_of_mem (wf : d.WellFormed) {place : Place} {e : Entry}
    (h : (place, e) ∈ d.entries) : d.entry? place = some e := by
  rw [entry?_of_ne_nil (wf.proper _ h).1, List.lookup_eq_some_iff]
  obtain ⟨before, after, hentries⟩ := List.append_of_mem h
  refine ⟨before, after, hentries, fun p hp => ?_⟩
  have hdistinct := wf.distinct
  rw [hentries, List.map_append, List.nodup_append] at hdistinct
  have hne := hdistinct.2.2 p.1 (List.mem_map_of_mem hp) place (by simp)
  simpa using hne.symm

/-- Every name on the way to an entry is proper. -/
lemma WellFormed.isProper (wf : d.WellFormed) {place : Place} {name : String} {node : Node}
    (h : d.node? place = some node) (hname : name ∈ place) : IsProper name := by
  obtain ⟨e, hentry, -⟩ := node?_eq_some_iff.mp h
  exact (wf.proper _ (mem_entries (List.ne_nil_of_mem hname) hentry)).2 name hname

lemma WellFormed.isProper_last (wf : d.WellFormed) {place : Place} {name : String} {node : Node}
    (h : d.node? (place ++ [name]) = some node) : IsProper name :=
  wf.isProper h (by simp)

/-- What is below something is in a directory. -/
lemma WellFormed.node?_above (wf : d.WellFormed) {place : Place} {name : String} {e : Entry}
    (h : d.entry? (place ++ [name]) = some e) : d.node? place = some .directory := by
  have := wf.rooted _ (mem_entries (by simp) h)
  rwa [List.dropLast_concat] at this

/-- Nothing is below a free place. -/
lemma WellFormed.entry?_below (wf : d.WellFormed) {place : Place} (h : d.entry? place = none)
    (rest : Place) : d.entry? (place ++ rest) = none := by
  induction rest using List.reverseRecOn with
  | nil => simpa using h
  | append_singleton rest name ih =>
    rw [← List.append_assoc]
    cases hentry : d.entry? (place ++ rest ++ [name]) with
    | none => rfl
    | some e =>
      have := wf.node?_above hentry
      rw [node?, ih] at this
      cases this

/-- Everything on the way to something is a directory. -/
lemma WellFormed.node?_of_prefix (wf : d.WellFormed) {place above : Place} {e : Entry}
    (h : d.entry? place = some e) (habove : above <+: place) (hne : above ≠ place) :
    d.node? above = some .directory := by
  induction place using List.reverseRecOn generalizing e with
  | nil => exact absurd (List.prefix_nil.mp habove) hne
  | append_singleton place name ih =>
    have hplace := wf.node?_above h
    rcases List.prefix_concat_iff.mp habove with heq | hprefix
    · exact absurd heq hne
    · by_cases heq : above = place
      · rw [heq]
        exact hplace
      · obtain ⟨e', hentry, -⟩ := node?_eq_some_iff.mp hplace
        exact ih hentry hprefix heq

/-- The number of a node is smaller than the next one. -/
lemma WellFormed.id_lt (wf : d.WellFormed) {place : Place} {e : Entry}
    (h : d.entry? place = some e) : e.id < d.nextId := by
  by_cases hplace : place = []
  · subst hplace
    cases h
    exact wf.unused
  · exact (wf.numbered _ (mem_entries hplace h)).2

/-- What has the same number is the same node, and a directory is at one place only. -/
lemma WellFormed.eq_of_id (wf : d.WellFormed) {p q : Place} {e f : Entry}
    (he : d.entry? p = some e) (hf : d.entry? q = some f) (hid : e.id = f.id) :
    e = f ∧ (e.node = .directory → p = q) := by
  by_cases hp : p = []
  · subst hp
    by_cases hq : q = []
    · subst hq
      rw [he, Option.some.injEq] at hf
      exact ⟨hf, fun _ => rfl⟩
    · cases he
      exact absurd hid (Nat.ne_of_lt (wf.numbered _ (mem_entries hq hf)).1)
  · by_cases hq : q = []
    · subst hq
      cases hf
      exact absurd hid (Nat.ne_of_gt (wf.numbered _ (mem_entries hp he)).1)
    · exact wf.shared _ (mem_entries hp he) _ (mem_entries hq hf) hid

/-! ### Changes of well-formed disks -/

/-- A disk with a new node in one of its directories is well-formed. -/
lemma WellFormed.add (wf : d.WellFormed) {above : Place} {name : String}
    (hfree : d.entry? (above ++ [name]) = none) (habove : d.node? above = some .directory)
    (hname : IsProper name) (node : Node) (mode : Mode) :
    (d.add (above ++ [name]) node mode).WellFormed := by
  have hnew : ∀ e ∈ d.entries, e.1 ≠ above ++ [name] := by
    rintro ⟨place, e⟩ he rfl
    rw [wf.entry?_of_mem he] at hfree
    cases hfree
  have hkept : ∀ {q m}, d.node? q = some m → (d.add (above ++ [name]) node mode).node? q = some m :=
    fun h => node?_add_of_node? hfree h
  refine ⟨?_, ?_, ?_, ?_, ?_, ?_⟩
  · simp only [Disk.add, List.map_append, List.map_cons, List.map_nil]
    rw [List.nodup_append]
    refine ⟨wf.distinct, by simp, fun p hp q hq => ?_⟩
    obtain ⟨e, he, rfl⟩ := List.mem_map.mp hp
    rw [List.mem_singleton.mp hq]
    exact hnew e he
  · simp only [Disk.add, List.mem_append, List.mem_singleton]
    rintro e (he | rfl)
    · exact wf.proper e he
    · refine ⟨by simp, fun n hn => ?_⟩
      rcases List.mem_append.mp hn with hn | hn
      · exact wf.isProper habove hn
      · rw [List.mem_singleton.mp hn]
        exact hname
  · intro e he
    simp only [Disk.add, List.mem_append, List.mem_singleton] at he
    rcases he with he | rfl
    · exact hkept (wf.rooted e he)
    · simp only [List.dropLast_concat]
      exact hkept habove
  · simp only [Disk.add, List.mem_append, List.mem_singleton]
    rintro e (he | rfl)
    · exact ⟨(wf.numbered e he).1, Nat.lt_succ_of_lt (wf.numbered e he).2⟩
    · exact ⟨wf.unused, Nat.lt_succ_self _⟩
  · exact Nat.lt_succ_of_lt wf.unused
  · simp only [Disk.add, List.mem_append, List.mem_singleton]
    rintro e (he | rfl) f (hf | rfl) hid
    · exact wf.shared e he f hf hid
    · exact absurd hid (Nat.ne_of_lt (wf.numbered e he).2)
    · exact absurd hid.symm (Nat.ne_of_lt (wf.numbered f hf).2)
    · exact ⟨rfl, fun _ => rfl⟩

/-- A disk from which entries have been dropped is well-formed if what is above the others is kept. -/
lemma WellFormed.restrict (wf : d.WellFormed) {keep : Place → Bool}
    (above : ∀ e ∈ d.entries, keep e.1 = true → e.1.dropLast ≠ [] → keep e.1.dropLast = true) :
    (d.restrict keep).WellFormed := by
  have hsub : (d.restrict keep).entries.Sublist d.entries := List.filter_sublist
  have hmem : ∀ e ∈ (d.restrict keep).entries, e ∈ d.entries ∧ keep e.1 = true :=
    fun e he => List.mem_filter.mp he
  refine ⟨wf.distinct.sublist (hsub.map _), fun e he => wf.proper e (hmem e he).1, fun e he => ?_,
    fun e he => wf.numbered e (hmem e he).1, wf.unused,
    fun e he f hf => wf.shared e (hmem e he).1 f (hmem f hf).1⟩
  obtain ⟨hentry, hkept⟩ := hmem e he
  by_cases hroot : e.1.dropLast = []
  · rw [hroot, node?_root]
  · rw [node?, entry?_restrict d keep hroot, if_pos (above e hentry hkept hroot)]
    exact wf.rooted e hentry

/-- A disk from which a tree has been cut out is well-formed. -/
lemma WellFormed.cut (wf : d.WellFormed) (place : Place) : (d.cut place).WellFormed := by
  rw [cut_eq_restrict]
  refine wf.restrict fun e _ hkept _ => ?_
  simp only [Bool.not_eq_true', Bool.eq_false_iff, ne_eq, List.isPrefixOf_iff_prefix] at hkept ⊢
  exact fun h => hkept (h.trans (List.dropLast_prefix _))

/-- A disk with a node changed is well-formed, as long as the node keeps its number and does not
become or cease to be a directory. -/
lemma WellFormed.change (wf : d.WellFormed) {id : Nat} {f : Entry → Entry}
    (hid : id ≠ Entry.root.id) (hnumber : ∀ e, (f e).id = e.id)
    (hkind : ∀ q e, d.entry? q = some e → e.id = id →
      ((f e).node = .directory ↔ e.node = .directory)) :
    (d.change id f).WellFormed := by
  let g : Entry → Entry := fun e => if e.id = id then f e else e
  have hg : ∀ e, (g e).id = e.id := fun e => by
    dsimp only [g]
    split
    · exact hnumber e
    · rfl
  have hdirectory : ∀ {q e}, d.entry? q = some e →
      ((g e).node = .directory ↔ e.node = .directory) := by
    intro q e he
    dsimp only [g]
    split
    · next heq => exact hkind q e he heq
    · rfl
  have hmem : ∀ e' ∈ (d.change id f).entries, ∃ e ∈ d.entries, e' = (e.1, g e.2) := by
    intro e' he'
    rw [entries_change] at he'
    obtain ⟨e, he, heq⟩ := List.mem_map.mp he'
    exact ⟨e, he, heq.symm⟩
  refine ⟨?_, fun e' he' => ?_, fun e' he' => ?_, fun e' he' => ?_, wf.unused,
    fun e' he' f' hf' heq => ?_⟩
  · rw [entries_change, List.map_map]
    exact wf.distinct
  · obtain ⟨e, he, rfl⟩ := hmem e' he'
    exact wf.proper e he
  · obtain ⟨e, he, rfl⟩ := hmem e' he'
    obtain ⟨above, habove, hnode⟩ := node?_eq_some_iff.mp (wf.rooted e he)
    refine node?_eq_some_iff.mpr ⟨g above, ?_, (hdirectory habove).mpr hnode⟩
    rw [entry?_change hid, habove]
    rfl
  · obtain ⟨e, he, rfl⟩ := hmem e' he'
    rw [hg]
    exact wf.numbered e he
  · obtain ⟨e, he, rfl⟩ := hmem e' he'
    obtain ⟨e₂, he₂, rfl⟩ := hmem f' hf'
    rw [hg, hg] at heq
    obtain ⟨hsame, hname⟩ := wf.shared e he e₂ he₂ heq
    exact ⟨congrArg g hsame, fun hdir => hname ((hdirectory (wf.entry?_of_mem he)).mp hdir)⟩

end SnippetForge.Disk
