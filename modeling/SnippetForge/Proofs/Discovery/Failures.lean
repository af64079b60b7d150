import SnippetForge.Proofs.Discovery.Resolution

/-!
# How an import fails

An import is walked twice and read twice: the declaration files are collected, then read, then the
implementation files are collected and read. Three things can go wrong on the way. A directory that
a walk enters cannot be listed, a declaration file cannot be read, or an implementation file cannot
be read. The first walk enters all directories, so a listing that fails comes before everything
else; and all declaration files come before the first implementation file, wherever they lie.

`FailsWith` says this without a walk. In each of its three cases the failure is at the first place,
in the order of bytes, at which something of that kind goes wrong, and nothing of an earlier kind
goes wrong anywhere. Both walk and reading go by paths, so a file counts as seen only if its own path
leads to it.
-/

namespace SnippetForge.Discovery

variable {d : Disk} {cwd : Place} {suffix : String} {directory : Path}

/-! ### What can go wrong -/

/-- A place below a directory is that of a file that discovery sees: an open directory holds it, it
is not hidden, its name has the suffix, and its path leads to a regular file, links followed. -/
def IsSeen (d : Disk) (cwd : Place) (suffix : String) (directory : Path) (rel : Place) : Prop :=
  ∃ base dirs name, d.locate cwd true directory = .ok (.taken base .directory) ∧
    rel = dirs ++ [name] ∧ IsOpen d base dirs ∧ isHidden name = false ∧
      (d.node? (base ++ dirs ++ [name])).isSome = true ∧ hasSuffix suffix name = true ∧
        d.isFile cwd (directory.descend rel) = true

/-- A directory that a walk enters cannot be listed. -/
structure IsUnlisted (d : Disk) (cwd : Place) (directory : Path) (dirs : Place) (fault : Fault) :
    Prop where
  entered : IsEntered d cwd directory dirs
  refused : d.list cwd (directory.descend dirs) = .error fault

/-- A file that discovery sees cannot be read as a text. -/
structure IsUnread (d : Disk) (cwd : Place) (suffix : String) (directory : Path) (rel : Place)
    (fault : Fault) : Prop where
  seen : IsSeen d cwd suffix directory rel
  refused : d.readText cwd (directory.descend rel) = .error fault

/-- Something goes wrong at a place, and wherever else it does comes later in the order of bytes,
component by component. -/
structure IsFirst (wrong : Place → Fault → Prop) (rel : Place) (fault : Fault) : Prop where
  holds : wrong rel fault
  first : ∀ other fault', wrong other fault' → other ≠ rel →
    rel.map Text.bytes < other.map Text.bytes

/-- The failure of an import that has a directory. -/
inductive FailsWith (d : Disk) (cwd : Place) (directory : Path) : Failure → Prop
  /-- A directory cannot be listed; the first one of these is named. -/
  | listing {dirs : Place} {fault : Fault} (first : IsFirst (IsUnlisted d cwd directory) dirs fault) :
      FailsWith d cwd directory
        (.discovery (directory.descend dirs) (.onEntry (directory.descend dirs) fault))
  /-- Everything can be listed, and a declaration file cannot be read. -/
  | declaration {rel : Place} {fault : Fault}
      (listed : ∀ dirs fault, ¬IsUnlisted d cwd directory dirs fault)
      (first : IsFirst (IsUnread d cwd ".d.ts" directory) rel fault) :
      FailsWith d cwd directory (.discovery (directory.descend rel) fault)
  /-- Everything can be listed, every declaration file can be read, and an implementation file
  cannot. -/
  | implementation {rel : Place} {fault : Fault}
      (listed : ∀ dirs fault, ¬IsUnlisted d cwd directory dirs fault)
      (declared : ∀ rel fault, ¬IsUnread d cwd ".d.ts" directory rel fault)
      (first : IsFirst (IsUnread d cwd ".js" directory) rel fault) :
      FailsWith d cwd directory (.discovery (directory.descend rel) fault)

/-- What is seen is what the directory leads to by names of open directories. -/
lemma isSeen_iff {base rel : Place}
    (hbase : d.locate cwd true directory = .ok (.taken base .directory)) :
    IsSeen d cwd suffix directory rel ↔
      ∃ dirs name, rel = dirs ++ [name] ∧ IsOpen d base dirs ∧ isHidden name = false ∧
        (d.node? (base ++ dirs ++ [name])).isSome = true ∧ hasSuffix suffix name = true ∧
          d.isFile cwd (directory.descend rel) = true := by
  constructor
  · rintro ⟨base', dirs, name, hbase', hseen⟩
    rw [hbase] at hbase'
    cases hbase'
    exact ⟨dirs, name, hseen⟩
  · rintro ⟨dirs, name, hseen⟩
    exact ⟨base, dirs, name, hbase, hseen⟩

lemma IsUnlisted.fault_unique {dirs : Place} {fault fault' : Fault}
    (h : IsUnlisted d cwd directory dirs fault) (h' : IsUnlisted d cwd directory dirs fault') :
    fault = fault' :=
  Except.error.inj (h.refused.symm.trans h'.refused)

lemma IsUnread.fault_unique {rel : Place} {fault fault' : Fault}
    (h : IsUnread d cwd suffix directory rel fault) (h' : IsUnread d cwd suffix directory rel fault') :
    fault = fault' :=
  Except.error.inj (h.refused.symm.trans h'.refused)

/-- There is only one first place. -/
lemma IsFirst.unique {wrong : Place → Fault → Prop} {rel rel' : Place} {fault fault' : Fault}
    (h : IsFirst wrong rel fault) (h' : IsFirst wrong rel' fault')
    (same : ∀ rel fault fault', wrong rel fault → wrong rel fault' → fault = fault') :
    rel = rel' ∧ fault = fault' := by
  obtain rfl : rel = rel' := by
    by_contra hne
    exact List.lt_asymm (h.first _ _ h'.holds (Ne.symm hne)) (h'.first _ _ h.holds hne)
  exact ⟨rfl, same _ _ _ h.holds h'.holds⟩

/-- An import has at most one failure. -/
lemma FailsWith.unique {failure failure' : Failure} (h : FailsWith d cwd directory failure)
    (h' : FailsWith d cwd directory failure') : failure = failure' := by
  cases h with
  | listing first =>
    cases h' with
    | listing first' =>
      obtain ⟨rfl, rfl⟩ := first.unique first' fun _ _ _ => IsUnlisted.fault_unique
      rfl
    | declaration listed _ => exact absurd first.holds (listed _ _)
    | implementation listed _ _ => exact absurd first.holds (listed _ _)
  | declaration listed first =>
    cases h' with
    | listing first' => exact absurd first'.holds (listed _ _)
    | declaration _ first' =>
      obtain ⟨rfl, rfl⟩ := first.unique first' fun _ _ _ => IsUnread.fault_unique
      rfl
    | implementation _ declared _ => exact absurd first.holds (declared _ _)
  | implementation listed declared first =>
    cases h' with
    | listing first' => exact absurd first'.holds (listed _ _)
    | declaration _ first' => exact absurd first'.holds (declared _ _)
    | implementation _ _ first' =>
      obtain ⟨rfl, rfl⟩ := first.unique first' fun _ _ _ => IsUnread.fault_unique
      rfl

/-! ### Collecting up to the first failure -/

/-- Collecting fails with the failure of the first step that fails, whatever comes after it. -/
lemma collectAll_eq_error_iff {α β : Type} {step : α → Except Failure (List β)} {l : List α}
    {failure : Failure} :
    collectAll step l = .error failure ↔
      ∃ before a, before ++ [a] <+: l ∧ (∀ b ∈ before, ∃ found, step b = .ok found) ∧
        step a = .error failure := by
  induction l with
  | nil =>
    constructor
    · intro h
      cases h
    · rintro ⟨before, a, hinitial, -⟩
      simp at hinitial
  | cons head rest ih =>
    cases hhead : step head with
    | error failure' =>
      simp only [collectAll, hhead]
      constructor
      · rintro ⟨⟩
        exact ⟨[], head, by simp, by simp, hhead⟩
      · rintro ⟨before, a, hinitial, hbefore, hfails⟩
        cases before with
        | nil =>
          obtain ⟨rfl, -⟩ := List.cons_prefix_cons.mp hinitial
          exact congrArg _ (Except.error.inj (hhead.symm.trans hfails))
        | cons b before =>
          obtain ⟨rfl, -⟩ := List.cons_prefix_cons.mp hinitial
          obtain ⟨found, hfound⟩ := hbefore b (List.mem_cons_self ..)
          rw [hhead] at hfound
          cases hfound
    | ok found =>
      have hcons : collectAll step (head :: rest) = .error failure ↔
          collectAll step rest = .error failure := by
        simp only [collectAll, hhead]
        cases collectAll step rest <;> simp
      rw [hcons, ih]
      constructor
      · rintro ⟨before, a, hinitial, hbefore, hfails⟩
        refine ⟨head :: before, a, List.cons_prefix_cons.mpr ⟨rfl, hinitial⟩, ?_, hfails⟩
        intro b hb
        rcases List.mem_cons.mp hb with rfl | hb
        · exact ⟨found, hhead⟩
        · exact hbefore b hb
      · rintro ⟨before, a, hinitial, hbefore, hfails⟩
        cases before with
        | nil =>
          obtain ⟨rfl, -⟩ := List.cons_prefix_cons.mp hinitial
          rw [hhead] at hfails
          cases hfails
        | cons b before =>
          exact ⟨before, a, (List.cons_prefix_cons.mp hinitial).2,
            fun b hb => hbefore b (List.mem_cons_of_mem _ hb), hfails⟩

/-- Where collecting succeeds, every step does. -/
lemma exists_of_collectAll_eq_ok {α β : Type} {step : α → Except Failure (List β)} {l : List α}
    {out : List β} (h : collectAll step l = .ok out) : ∀ a ∈ l, ∃ found, step a = .ok found := by
  induction l generalizing out with
  | nil => simp
  | cons head rest ih =>
    cases hhead : step head with
    | error failure =>
      rw [collectAll, hhead] at h
      cases h
    | ok found =>
      cases hrest : collectAll step rest with
      | error failure =>
        rw [collectAll, hhead] at h
        simp only [hrest] at h
        cases h
      | ok more =>
        intro a ha
        rcases List.mem_cons.mp ha with rfl | ha
        · exact ⟨found, hhead⟩
        · exact ih hrest a ha

/-- In an ordered list, whatever is not before an element is that element or comes after it. -/
lemma after_of_pairwise {α : Type} {r : α → α → Prop} {l before : List α} {a b : α}
    (ordered : l.Pairwise r) (hinitial : before ++ [a] <+: l) (hb : b ∈ l) (hnot : b ∉ before)
    (hne : b ≠ a) : r a b := by
  obtain ⟨after, rfl⟩ := hinitial
  rw [List.pairwise_append] at ordered
  have hafter : b ∈ after := by
    simp only [List.mem_append, List.mem_singleton] at hb
    tauto
  exact ordered.2.2 a (by simp) b hafter

/-! ### The walk -/

/-- A walk that succeeds has listed every open directory within its depth. -/
lemma exists_list_of_walk_eq_ok (wf : d.WellFormed) {fuel : Nat} {p : Path} {place dirs : Place}
    {paths : List Path}
    (hp : ∀ entries, d.list cwd p = .ok entries →
      d.locate cwd true p = .ok (.taken place .directory))
    (h : walk d cwd suffix fuel p = .ok paths) (hopen : IsOpen d place dirs)
    (hdeep : dirs.length < fuel) : ∃ entries, d.list cwd (p.descend dirs) = .ok entries := by
  induction fuel generalizing p place dirs paths with
  | zero => exact absurd hdeep (Nat.not_lt_zero _)
  | succ fuel ih =>
    cases hlist : d.list cwd p with
    | error fault =>
      rw [walk, hlist] at h
      cases h
    | ok entries =>
      cases dirs with
      | nil => exact ⟨entries, hlist⟩
      | cons first dirs =>
        obtain ⟨hshown, hnode, hrest⟩ := isOpen_cons.mp hopen
        have hlocate := hp entries hlist
        obtain rfl := list_eq_of_locate hlocate hlist
        simp only [walk, hlist] at h
        obtain ⟨found, hfound⟩ := exists_of_collectAll_eq_ok h (first, .directory)
          (Disk.mem_sortedChildren.mpr (wf.mem_children.mpr hnode))
        rw [visit_directory, if_neg (by simp [hshown])] at hfound
        refine ih (p := p.child first) (fun _ h => ?_) hfound hrest (by simpa using hdeep)
        exact locate_child_of_list (wf.isProper_last hnode) hlocate hnode h

/-- A walk that fails names the first open directory that cannot be listed. -/
lemma exists_unlisted_of_walk_eq_error (wf : d.WellFormed) {fuel : Nat} {p : Path} {place : Place}
    {failure : Failure}
    (hp : ∀ entries, d.list cwd p = .ok entries →
      d.locate cwd true p = .ok (.taken place .directory))
    (h : walk d cwd suffix fuel p = .error failure) :
    ∃ dirs fault, IsOpen d place dirs ∧ d.list cwd (p.descend dirs) = .error fault ∧
      failure = .discovery (p.descend dirs) (.onEntry (p.descend dirs) fault) ∧
      ∀ other fault', IsOpen d place other → other.length < fuel →
        d.list cwd (p.descend other) = .error fault' → other ≠ dirs →
          dirs.map Text.bytes < other.map Text.bytes := by
  induction fuel generalizing p place failure with
  | zero => cases h
  | succ fuel ih =>
    cases hlist : d.list cwd p with
    | error fault =>
      rw [walk, hlist] at h
      cases h
      refine ⟨[], fault, isOpen_nil d place, hlist, rfl, fun other _ _ _ _ hne => ?_⟩
      obtain ⟨first, rest, rfl⟩ := List.exists_cons_of_ne_nil hne
      exact List.nil_lt_cons _ _
    | ok entries =>
      have hlocate := hp entries hlist
      obtain rfl := list_eq_of_locate hlocate hlist
      simp only [walk, hlist] at h
      obtain ⟨before, ⟨name, node⟩, hinitial, hbefore, hfails⟩ := collectAll_eq_error_iff.mp h
      have hnode := wf.mem_children.mp (Disk.mem_sortedChildren.mp
        (hinitial.subset (by simp : (name, node) ∈ before ++ [(name, node)])))
      -- Only a directory that is not hidden can make the visit fail.
      obtain ⟨hshown, rfl, hwalk⟩ : isHidden name = false ∧ node = .directory ∧
          walk d cwd suffix fuel (p.child name) = .error failure := by
        by_cases hdirectory : node = .directory
        · subst hdirectory
          rw [visit_directory] at hfails
          split at hfails
          · cases hfails
          · next hshown => exact ⟨by simpa using hshown, rfl, hfails⟩
        · rw [visit_of_ne_directory _ p name hdirectory] at hfails
          split at hfails
          · cases hfails
          · split at hfails <;> cases hfails
      have hchild : ∀ {n : String}, d.node? (place ++ [n]) = some .directory →
          ∀ entries, d.list cwd (p.child n) = .ok entries →
            d.locate cwd true (p.child n) = .ok (.taken (place ++ [n]) .directory) :=
        fun hn _ => locate_child_of_list (wf.isProper_last hn) hlocate hn
      obtain ⟨dirs, fault, hopen, hunlisted, rfl, hfirst⟩ := ih (hchild hnode) hwalk
      refine ⟨name :: dirs, fault, isOpen_cons.mpr ⟨hshown, hnode, hopen⟩, hunlisted, rfl, ?_⟩
      intro other fault' hother hdeep hrefused hne
      cases other with
      | nil =>
        have hok : d.list cwd (p.descend []) = .ok (d.sortedChildren place) := hlist
        rw [hok] at hrefused
        cases hrefused
      | cons first rest =>
        obtain ⟨hfirstShown, hfirstNode, hrest⟩ := isOpen_cons.mp hother
        have hdeep' : rest.length < fuel := by simpa using hdeep
        by_cases hsame : first = name
        · subst hsame
          exact List.cons_lt_cons_self.mpr
            (hfirst rest fault' hrest hdeep' hrefused fun h => hne (h ▸ rfl))
        · -- What comes before the child that fails has been walked without a failure.
          have hnot : (first, Node.directory) ∉ before := by
            intro hmem
            obtain ⟨found, hfound⟩ := hbefore _ hmem
            rw [visit_directory, if_neg (by simp [hfirstShown])] at hfound
            obtain ⟨entries, hok⟩ :=
              exists_list_of_walk_eq_ok wf (hchild hfirstNode) hfound hrest hdeep'
            cases hok.symm.trans hrefused
          have hlt := after_of_pairwise (wf.pairwise_sortedChildren place) hinitial
            (Disk.mem_sortedChildren.mpr (wf.mem_children.mpr hfirstNode)) hnot (by simp [hsame])
          exact List.Lex.rel (Text.bytes_lt_bytes hlt)

/-! ### The files of a directory -/

/-- An open directory is not deeper than the deepest place of the disk. -/
lemma IsOpen.length_le {base dirs : Place} (h : IsOpen d base dirs) : dirs.length ≤ depth d := by
  by_cases hdirs : dirs = []
  · simp [hdirs]
  · obtain ⟨e, hentry, -⟩ := Disk.node?_eq_some_iff.mp (h.real dirs List.prefix_rfl hdirs)
    have hdeep := le_depth (Disk.mem_entries (by simp [hdirs]) hentry)
    simp only [List.length_append] at hdeep
    omega

/-- Where files are collected, everything can be listed, and what is collected are the files seen,
in order. -/
lemma exists_of_findFiles_eq_ok (wf : d.WellFormed) {paths : List Path}
    (h : findFiles d cwd suffix directory = .ok paths) :
    (∀ dirs fault, ¬IsUnlisted d cwd directory dirs fault) ∧
      ∃ rels : List Place, paths = rels.map directory.descend ∧
        (∀ rel, rel ∈ rels ↔ IsSeen d cwd suffix directory rel) ∧
        rels.Pairwise fun a b => a.map Text.bytes < b.map Text.bytes := by
  unfold findFiles at h
  by_cases hdirectory : d.isDirectory cwd directory = true
  · obtain ⟨base, hbase⟩ := isDirectory_eq_true_iff.mp hdirectory
    rw [if_pos hdirectory] at h
    have lists : ∀ dirs, IsOpen d base dirs →
        ∃ entries, d.list cwd (directory.descend dirs) = .ok entries := fun dirs hopen =>
      exists_list_of_walk_eq_ok wf (fun _ _ => hbase) h hopen (Nat.lt_succ_of_le hopen.length_le)
    rw [walk_eq_ok wf hbase lists] at h
    cases h
    refine ⟨?_, _, rfl, fun rel => ?_, (pairwise_found wf _ _).filter _⟩
    · rintro dirs fault ⟨hentered, hrefused⟩
      obtain ⟨entries, hlist⟩ := lists dirs ((isEntered_iff hbase).mp hentered)
      rw [hlist] at hrefused
      cases hrefused
    · rw [List.mem_filter, mem_found wf, isSeen_iff hbase]
      constructor
      · rintro ⟨⟨-, dirs, name, rfl, hvisible⟩, hfile⟩
        exact ⟨dirs, name, rfl, hvisible.inside, hvisible.shown, hvisible.held, hvisible.named,
          hfile⟩
      · rintro ⟨dirs, name, rfl, hopen, hshown, hheld, hnamed, hfile⟩
        obtain ⟨node, hnode⟩ := Option.isSome_iff_exists.mp hheld
        have hregular : d.isFile (base ++ dirs) ⟨name⟩ = true := by
          refine isFile_of_child (wf.isProper_last hnode) (locate_descend wf hbase lists hopen) ?_
          rw [← Path.descend_concat]
          exact hfile
        have hvisible : IsVisible d suffix base dirs name := ⟨hopen, hshown, hheld, hnamed, hregular⟩
        exact ⟨⟨Nat.le_succ_of_le hvisible.length_le, dirs, name, rfl, hvisible⟩, hfile⟩
  · rw [if_neg hdirectory] at h
    cases h
    refine ⟨?_, [], rfl, fun rel => ?_, List.Pairwise.nil⟩
    · rintro dirs fault ⟨⟨base, hbase, -⟩, -⟩
      exact hdirectory (isDirectory_eq_true_iff.mpr ⟨base, hbase⟩)
    · constructor
      · intro hmem
        cases hmem
      · rintro ⟨base, _, _, hbase, -⟩
        exact absurd (isDirectory_eq_true_iff.mpr ⟨base, hbase⟩) hdirectory

/-- Where files cannot be collected, the first directory that cannot be listed is named. -/
lemma exists_unlisted_of_findFiles_eq_error (wf : d.WellFormed) {failure : Failure}
    (h : findFiles d cwd suffix directory = .error failure) :
    ∃ dirs fault, IsFirst (IsUnlisted d cwd directory) dirs fault ∧
      failure = .discovery (directory.descend dirs) (.onEntry (directory.descend dirs) fault) := by
  unfold findFiles at h
  split at h
  · next hdirectory =>
    obtain ⟨base, hbase⟩ := isDirectory_eq_true_iff.mp hdirectory
    obtain ⟨dirs, fault, hopen, hrefused, rfl, hfirst⟩ :=
      exists_unlisted_of_walk_eq_error wf (fun _ _ => hbase) h
    refine ⟨dirs, fault, ⟨⟨(isEntered_iff hbase).mpr hopen, hrefused⟩, ?_⟩, rfl⟩
    rintro other fault' ⟨hentered, hrefused'⟩ hne
    have hother := (isEntered_iff hbase).mp hentered
    exact hfirst other fault' hother (Nat.lt_succ_of_le hother.length_le) hrefused' hne
  · cases h

lemma readSource_eq_error_iff {p : Path} {failure : Failure} :
    (readSource d cwd p).map (fun f => [f]) = .error failure ↔
      ∃ fault, d.readText cwd p = .error fault ∧ failure = .discovery p fault := by
  unfold readSource
  cases d.readText cwd p with
  | ok content => simp [Except.map]
  | error fault => simp [Except.map, eq_comm]

/-- Where the files of a directory are read, everything in it can be listed and read, and they are
as many as there are seen. -/
lemma of_sources_eq_ok (wf : d.WellFormed) {files : List SourceFile}
    (h : sources d cwd suffix directory = .ok files) :
    (∀ dirs fault, ¬IsUnlisted d cwd directory dirs fault) ∧
      (∀ rel fault, ¬IsUnread d cwd suffix directory rel fault) ∧
        (files = [] ↔ ∀ rel, ¬IsSeen d cwd suffix directory rel) := by
  unfold sources at h
  cases hfind : findFiles d cwd suffix directory with
  | error failure =>
    rw [hfind] at h
    cases h
  | ok paths =>
    rw [hfind] at h
    obtain ⟨hlisted, rels, rfl, hseen, -⟩ := exists_of_findFiles_eq_ok wf hfind
    have hread : ∀ rel ∈ rels, ∃ content, d.readText cwd (directory.descend rel) = .ok content := by
      intro rel hrel
      obtain ⟨found, hfound⟩ := exists_of_collectAll_eq_ok h _ (List.mem_map_of_mem hrel)
      cases hcontent : d.readText cwd (directory.descend rel) with
      | ok content => exact ⟨content, rfl⟩
      | error fault =>
        rw [readSource_eq_error_iff.mpr ⟨fault, hcontent, rfl⟩] at hfound
        cases hfound
    refine ⟨hlisted, fun rel fault hunread => ?_, ?_⟩
    · obtain ⟨content, hcontent⟩ := hread rel ((hseen rel).mpr hunread.seen)
      have hrefused := hunread.refused
      rw [hcontent] at hrefused
      cases hrefused
    · obtain ⟨texts, rfl, htexts⟩ := exists_texts hread
      obtain rfl := Except.ok.inj ((readSources_eq_ok htexts).symm.trans h)
      simp only [← hseen, List.map_eq_nil_iff]
      rw [← List.eq_nil_iff_forall_not_mem, List.map_eq_nil_iff]

/-- Where the files of a directory cannot be read, the first listing that fails is to blame, or
else the first file that cannot be read. -/
lemma of_sources_eq_error (wf : d.WellFormed) {failure : Failure}
    (h : sources d cwd suffix directory = .error failure) :
    (∃ dirs fault, IsFirst (IsUnlisted d cwd directory) dirs fault ∧
      failure = .discovery (directory.descend dirs) (.onEntry (directory.descend dirs) fault)) ∨
    (∀ dirs fault, ¬IsUnlisted d cwd directory dirs fault) ∧
      ∃ rel fault, IsFirst (IsUnread d cwd suffix directory) rel fault ∧
        failure = .discovery (directory.descend rel) fault := by
  unfold sources at h
  cases hfind : findFiles d cwd suffix directory with
  | error failure' =>
    rw [hfind] at h
    cases h
    exact .inl (exists_unlisted_of_findFiles_eq_error wf hfind)
  | ok paths =>
    rw [hfind] at h
    obtain ⟨hlisted, rels, rfl, hseen, hordered⟩ := exists_of_findFiles_eq_ok wf hfind
    obtain ⟨before, p, hinitial, hbefore, hfails⟩ := collectAll_eq_error_iff.mp h
    obtain ⟨fault, hrefused, rfl⟩ := readSource_eq_error_iff.mp hfails
    obtain ⟨front, hfront, hmap⟩ := List.prefix_map_iff.mp hinitial
    obtain ⟨earlier, last, rfl, rfl, hlast⟩ := List.append_eq_map_iff.mp hmap
    obtain ⟨rel, rfl, rfl⟩ := List.map_eq_singleton_iff.mp hlast
    refine .inr ⟨hlisted, rel, fault, ⟨⟨?_, hrefused⟩, fun other fault' hother hne => ?_⟩, rfl⟩
    · exact (hseen rel).mp (hfront.subset (by simp))
    · have hnot : other ∉ earlier := by
        intro hmem
        obtain ⟨found, hfound⟩ := hbefore _ (List.mem_map_of_mem hmem)
        rw [readSource_eq_error_iff.mpr ⟨fault', hother.refused, rfl⟩] at hfound
        cases hfound
      exact after_of_pairwise (r := fun a b => a.map Text.bytes < b.map Text.bytes) hordered hfront
        ((hseen other).mpr hother.seen) hnot hne

/-! ### The failure of an import -/

lemma resolveImport_of_accepted {root : Path} {name : String}
    (accepted : moduleDirectory? root name = some directory) :
    (resolveImport d cwd root name).2 =
      (moduleFiles d cwd directory).map fun files => ManifestEntry.ofFiles? name files.1 files.2 := by
  simp only [resolveImport, accepted]
  cases moduleFiles d cwd directory <;> rfl

/-- If the files of an import are found and read, nothing goes wrong, and it has an entry unless no
declaration file is seen. -/
lemma of_moduleFiles_eq_ok (wf : d.WellFormed) {files : List SourceFile × List SourceFile}
    (h : moduleFiles d cwd directory = .ok files) :
    (∀ dirs fault, ¬IsUnlisted d cwd directory dirs fault) ∧
      (∀ rel fault, ¬IsUnread d cwd ".d.ts" directory rel fault) ∧
        (∀ rel fault, ¬IsUnread d cwd ".js" directory rel fault) ∧
          (files.1 = [] ↔ ∀ rel, ¬IsSeen d cwd ".d.ts" directory rel) := by
  unfold moduleFiles at h
  cases hdeclarations : sources d cwd declarationSuffix directory with
  | error failure =>
    rw [hdeclarations] at h
    cases h
  | ok declarations =>
    cases himpls : sources d cwd implementationSuffix directory with
    | error failure =>
      rw [hdeclarations, himpls] at h
      cases h
    | ok impls =>
      rw [hdeclarations, himpls] at h
      cases h
      obtain ⟨hlisted, hdeclared, hnone⟩ := of_sources_eq_ok wf hdeclarations
      obtain ⟨-, himplemented, -⟩ := of_sources_eq_ok wf himpls
      exact ⟨hlisted, hdeclared, himplemented, hnone⟩

/-- If the files of an import are not found or not read, the failure is the one to be expected. -/
lemma failsWith_of_moduleFiles_eq_error (wf : d.WellFormed) {failure : Failure}
    (h : moduleFiles d cwd directory = .error failure) : FailsWith d cwd directory failure := by
  unfold moduleFiles at h
  cases hdeclarations : sources d cwd declarationSuffix directory with
  | error failure' =>
    rw [hdeclarations] at h
    cases h
    rcases of_sources_eq_error wf hdeclarations with
      ⟨dirs, fault, hfirst, rfl⟩ | ⟨hlisted, rel, fault, hfirst, rfl⟩
    · exact .listing hfirst
    · exact .declaration hlisted hfirst
  | ok declarations =>
    obtain ⟨hlisted, hdeclared, -⟩ := of_sources_eq_ok wf hdeclarations
    cases himpls : sources d cwd implementationSuffix directory with
    | ok impls =>
      rw [hdeclarations, himpls] at h
      cases h
    | error failure' =>
      rw [hdeclarations, himpls] at h
      cases h
      rcases of_sources_eq_error wf himpls with
        ⟨dirs, fault, hfirst, -⟩ | ⟨-, rel, fault, hfirst, rfl⟩
      · exact absurd hfirst.holds (hlisted dirs fault)
      · exact .implementation hlisted hdeclared hfirst

/-- Nothing that succeeds has a failure. -/
lemma FailsWith.not_ok (wf : d.WellFormed) {failure : Failure}
    (fails : FailsWith d cwd directory failure) {files : List SourceFile × List SourceFile}
    (h : moduleFiles d cwd directory = .ok files) : False := by
  obtain ⟨hlisted, hdeclared, himplemented, -⟩ := of_moduleFiles_eq_ok wf h
  cases fails with
  | listing first => exact hlisted _ _ first.holds
  | declaration _ first => exact hdeclared _ _ first.holds
  | implementation _ _ first => exact himplemented _ _ first.holds

/-- An import fails with exactly the failure to be expected. -/
lemma resolveImport_eq_error_iff (wf : d.WellFormed) {root : Path} {name : String}
    (accepted : moduleDirectory? root name = some directory) {failure : Failure} :
    (resolveImport d cwd root name).2 = .error failure ↔ FailsWith d cwd directory failure := by
  rw [resolveImport_of_accepted accepted]
  cases hfiles : moduleFiles d cwd directory with
  | ok files =>
    constructor
    · intro h
      cases h
    · intro h
      exact (h.not_ok wf hfiles).elim
  | error failure' =>
    have hfails := failsWith_of_moduleFiles_eq_error wf hfiles
    constructor
    · rintro ⟨⟩
      exact hfails
    · intro h
      rw [h.unique hfails]
      rfl

end SnippetForge.Discovery
