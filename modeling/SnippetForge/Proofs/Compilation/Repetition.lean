import SnippetForge.Proofs.Compilation.Transport

/-!
# The same call in two worlds

A call is made in two worlds with the same files, from the same directory and with the same
environment. What else is in them may differ, and in particular the names that are proposed for
areas. As long as both worlds propose a name in time, or neither does, all goes alike up to where
the toolchain is invoked: the area is made in both, in one directory, or in neither for the same
reason, and then the entry is written in both or in neither.
-/

namespace SnippetForge

/-- In two worlds there are the same files, and a call that stages in a root finds a name in time in
both or in neither. -/
structure World.Resembles (root : Path) (w v : World) : Prop where
  tree : w.disk.WellFormed
  tree' : v.disk.WellFormed
  standing : w.disk.IsStanding w.cwd
  lettered : ∀ n, StagingArea.IsRandomPart (w.names n)
  lettered' : ∀ n, StagingArea.IsRandomPart (v.names n)
  disk : ∀ q, v.disk.entry? q = w.disk.entry? q
  cwd : v.cwd = w.cwd
  environment : v.environment = w.environment
  finds : ∀ parent, StagingArea.parentOf w.disk w.cwd root = .ok parent →
    ((∃ n < StagingArea.maxTries,
        StagingArea.attempt w.disk w.cwd parent (w.names (w.drawn + n)) ≠ .taken) ↔
      ∃ n < StagingArea.maxTries,
        StagingArea.attempt v.disk v.cwd parent (v.names (v.drawn + n)) ≠ .taken)

namespace World.Resembles

variable {root : Path} {w v : World}

lemma standing' (h : w.Resembles root v) : v.disk.IsStanding v.cwd := by
  rw [h.cwd]
  exact h.standing.of_kept fun q _ => h.disk q

/-- On two such disks areas are made in the same place. -/
lemma parentOf_eq (h : w.Resembles root v) (p : Path) :
    StagingArea.parentOf v.disk v.cwd p = StagingArea.parentOf w.disk w.cwd p := by
  rw [h.cwd]
  exact StagingArea.parentOf_congr (fun q => by rw [Disk.node?, Disk.node?, h.disk]) _ _

lemma symm (h : w.Resembles root v) : v.Resembles root w where
  tree := h.tree'
  tree' := h.tree
  standing := h.standing'
  lettered := h.lettered'
  lettered' := h.lettered
  disk q := (h.disk q).symm
  cwd := h.cwd.symm
  environment := h.environment.symm
  finds parent hparent := (h.finds parent (h.parentOf_eq root ▸ hparent)).symm

end World.Resembles

namespace StagingArea

-- Left reducible, this is unfolded down to the bytes of its paths.
attribute [local irreducible] StagingArea.attempt

/-- A search that is proposed only names that are taken gives up in the end. -/
lemma search_of_taken {d : Disk} {cwd parent : Place} {names : Nat → String} {tries drawn : Nat}
    (h : ∀ n < tries, attempt d cwd parent (names (drawn + n)) = .taken) :
    search d cwd parent names tries drawn = (drawn + tries, .error (exhausted parent)) := by
  induction tries generalizing drawn with
  | zero => rfl
  | succ tries ih =>
    have hfirst : attempt d cwd parent (names drawn) = .taken := h 0 (Nat.zero_lt_succ tries)
    have hrest := @ih (drawn + 1) fun n hn => by
      rw [Nat.add_right_comm, Nat.add_assoc]
      exact h (n + 1) (Nat.succ_lt_succ hn)
    rw [search_succ, hfirst, hrest, Nat.add_right_comm, Nat.add_assoc]

/-- Where a name is found in time, it decides how making the area goes. -/
lemma exists_create_eq {d : Disk} {cwd parent : Place} {root : Path} {names : Nat → String}
    {drawn : Nat} (found : parentOf d cwd root = .ok parent)
    (h : ∃ n < maxTries, attempt d cwd parent (names (drawn + n)) ≠ .taken) :
    ∃ n, attempt d cwd parent (names n) ≠ .taken ∧
      (∀ fault, attempt d cwd parent (names n) = .failed fault →
        (create d cwd root names drawn).2 = .error (.staging root fault)) ∧
      ∀ area disk, attempt d cwd parent (names n) = .made area disk →
        (create d cwd root names drawn).2 = .ok (area, disk) := by
  obtain ⟨n, ⟨fault, hattempt, hsearch⟩ | ⟨area, disk, hattempt, hsearch⟩⟩ :=
    Compilation.search_eq h
  · refine ⟨n, by simp [hattempt], fun fault' h' => ?_, fun _ _ h' => ?_⟩ <;>
      rw [hattempt] at h' <;> cases h'
    simp only [create, found, hsearch]
  · refine ⟨n, by simp [hattempt], fun _ h' => ?_, fun area' disk' h' => ?_⟩ <;>
      rw [hattempt] at h' <;> cases h'
    simp only [create, found, hsearch]

/-- How making an area goes in two worlds that find a name in both or in neither. -/
inductive MadeAlike (root : Path) :
    Except Failure (StagingArea × Disk) → Except Failure (StagingArea × Disk) → Prop
  /-- No area can be made, for the same reason but for the name that has been tried. -/
  | failed {parent : Place} {random random' : String} {fault fault' : Fault}
      (lettered : IsRandomPart random) (lettered' : IsRandomPart random')
      (alike : Fault.SameBut (below parent random).path (below parent random').path fault fault') :
      MadeAlike root (.error (.staging root fault)) (.error (.staging root fault'))
  /-- Both areas are made. -/
  | made (made made' : StagingArea × Disk) : MadeAlike root (.ok made) (.ok made')

end StagingArea

open StagingArea Compilation in
/-- In two worlds with the same files the area of a call is made in both or in neither. -/
lemma World.Resembles.create_alike {root : Path} {w v : World} (same : w.Resembles root v) :
    MadeAlike root (create w.disk w.cwd root w.names w.drawn).2
      (create v.disk v.cwd root v.names v.drawn).2 := by
  have hroots := same.parentOf_eq root
  cases hparent : parentOf w.disk w.cwd root with
  | error failure =>
    obtain ⟨fault, rfl⟩ : ∃ fault, failure = .staging root fault := by
      unfold parentOf at hparent
      split at hparent <;> cases hparent
      exact ⟨_, rfl⟩
    rw [hparent] at hroots
    simp only [create, hroots, hparent]
    exact @MadeAlike.failed root [] _ _ _ _ (same.lettered 0) (same.lettered' 0) (.same fault)
  | ok parent =>
    rw [hparent] at hroots
    by_cases hfinds : ∃ n < maxTries, attempt w.disk w.cwd parent (w.names (w.drawn + n)) ≠ .taken
    · obtain ⟨node, hnode, hreal⟩ := exists_node_of_parentOf same.tree same.standing hparent
      obtain ⟨n, huntaken, hfail, hmake⟩ := exists_create_eq hparent hfinds
      obtain ⟨n', huntaken', hfail', hmake'⟩ :=
        exists_create_eq hroots ((same.finds parent hparent).mp hfinds)
      have lettered := same.lettered n
      have lettered' := same.lettered' n'
      rcases attempt_alike lettered lettered' same.tree hnode hreal
        (fun above _ => same.disk above) huntaken huntaken' with
          ⟨fault, hfailed, hfailed'⟩ | ⟨admits, admits'⟩
      · rw [hfail _ hfailed, hfail' _ hfailed']
        exact .failed lettered lettered' (.at (.inside []) (.same fault))
      · rw [hmake _ _ (admits.attempt_eq same.tree lettered),
          hmake' _ _ (admits'.attempt_eq same.tree' lettered')]
        exact .made _ _
    · have hall : ∀ n < maxTries,
          attempt w.disk w.cwd parent (w.names (w.drawn + n)) = .taken := by
        simpa using hfinds
      have hall' : ∀ n < maxTries,
          attempt v.disk v.cwd parent (v.names (v.drawn + n)) = .taken := by
        simpa using fun h => hfinds ((same.finds parent hparent).mpr h)
      simp only [create, hroots, hparent, search_of_taken hall, search_of_taken hall']
      exact @MadeAlike.failed root [] _ _ _ _ (same.lettered 0) (same.lettered' 0)
        (.same (exhausted parent))

namespace Compilation

open StagingArea

variable {σ : Type} {settings : Settings} {source tag : String} {options options' : CompileOptions}
  {w v w₁ v₁ : World} {area area' : StagingArea}

/-- How the entry is written into areas of one directory: into both, or into neither because its
path is too long. -/
inductive WrittenAlike (source tag : String) (w v : World) (parent : Place)
    (random random' : String) : Prop
  | failed
      (unwritten : (below parent random).writeEntry w.disk w.cwd (EntryExtension.ofTag tag) source =
        .error (.staging ((below parent random).entryPath (EntryExtension.ofTag tag))
          (.system .nameTooLong)))
      (unwritten' : (below parent random').writeEntry v.disk v.cwd (EntryExtension.ofTag tag)
          source =
        .error (.staging ((below parent random').entryPath (EntryExtension.ofTag tag))
          (.system .nameTooLong)))
  | written {disk disk' : Disk}
      (written : (below parent random).writeEntry w.disk w.cwd (EntryExtension.ofTag tag) source =
        .ok ((below parent random).entryPath (EntryExtension.ofTag tag), disk))
      (written' : (below parent random').writeEntry v.disk v.cwd (EntryExtension.ofTag tag) source =
        .ok ((below parent random').entryPath (EntryExtension.ofTag tag), disk'))

/-- The areas that a call makes in two worlds with the same files are in one directory, and the
entry is written into both or into neither. -/
lemma exists_writtenAlike (same : w.Resembles settings.stagingRoot v)
    (created : Creates settings tag options w area w₁)
    (created' : Creates settings tag options' v area' v₁) (source : String) :
    ∃ parent random random', IsRandomPart random ∧ IsRandomPart random' ∧
      area = below parent random ∧ area' = below parent random' ∧
      WrittenAlike source tag w₁ v₁ parent random random' := by
  obtain ⟨u, parent, random, hparent, rfl, hdisk, hcwd, hosts, empty⟩ :=
    created.exists_hosts same.tree same.standing same.lettered
  obtain ⟨u', parent', random', hparent', rfl, hdisk', hcwd', hosts', empty'⟩ :=
    created'.exists_hosts same.tree' same.standing' same.lettered'
  rw [same.parentOf_eq, hparent, Except.ok.injEq] at hparent'
  subst hparent'
  have lettered := hosts.lettered
  have lettered' := hosts'.lettered
  refine ⟨parent, random, random', lettered, lettered', rfl, rfl, ?_⟩
  obtain ⟨hrefused, haccepted⟩ := writeEntry_into_new hdisk hcwd hosts empty source tag
  obtain ⟨hrefused', haccepted'⟩ := writeEntry_into_new hdisk' hcwd' hosts' empty' source tag
  by_cases refused : IsRefused parent random (EntryExtension.ofTag tag).fileName
  · exact .failed (hrefused refused) (hrefused' ((isRefused_iff lettered lettered').mpr refused))
  · obtain ⟨disk, written⟩ := haccepted refused
    obtain ⟨disk', written'⟩ :=
      haccepted' fun h => refused ((isRefused_iff lettered lettered').mp h)
    exact .written written written'

/-- If a call makes its area in one of two worlds with the same files, it does so in the other, in
the same directory, and the entry is written into both areas or into neither. -/
lemma exists_creates_alike (same : w.Resembles settings.stagingRoot v)
    (live' : isCancelled v options' = false) (created : Creates settings tag options w area w₁)
    (source : String) :
    ∃ v₁ parent random random', Creates settings tag options' v (below parent random') v₁ ∧
      IsRandomPart random ∧ IsRandomPart random' ∧ area = below parent random ∧
      WrittenAlike source tag w₁ v₁ parent random random' := by
  obtain ⟨v₁, area', created'⟩ : ∃ v₁ area', Creates settings tag options' v area' v₁ := by
    have hmade := same.create_alike
    obtain ⟨-, made⟩ := created
    rw [made] at hmade
    rcases hcreate : create v.disk v.cwd settings.stagingRoot v.names v.drawn with ⟨drawn, made'⟩
    rw [hcreate] at hmade
    cases hmade with
    | made _ made' => exact ⟨_, made'.1, .intro live' hcreate⟩
  obtain ⟨parent, random, random', lettered, lettered', harea, rfl, hwritten⟩ :=
    exists_writtenAlike same created created' source
  exact ⟨v₁, parent, random, random', created', lettered, lettered', harea, hwritten⟩

/-- If no area can be made in one of two worlds with the same files, none can be made in the other,
for the same reason but for the name that has been tried. -/
lemma exists_creation_alike {drawn : Nat} {fault : Fault} (tc : Toolchain σ)
    (same : w.Resembles settings.stagingRoot v) (live' : isCancelled v options' = false)
    (refused : create w.disk w.cwd settings.stagingRoot w.names w.drawn =
      (drawn, .error (.staging settings.stagingRoot fault))) :
    ∃ v' result', Outcome tc settings source tag options' v .creation v' result' ∧
      SameButName (.error (.staging settings.stagingRoot fault)) result' := by
  have hmade := same.create_alike
  rw [refused] at hmade
  rcases hcreate : create v.disk v.cwd settings.stagingRoot v.names v.drawn with ⟨drawn', made'⟩
  rw [hcreate] at hmade
  cases hmade with
  | failed lettered lettered' alike =>
    exact ⟨_, _, .creation live' hcreate, _, _, _, lettered, lettered',
      .failed (.staging (.same _) alike)⟩

/-- If the entry cannot be written into the area of one of two worlds with the same files, it cannot
be written into that of the other. -/
lemma exists_entry_alike {failure : Failure} (tc : Toolchain σ)
    (same : w.Resembles settings.stagingRoot v) (live' : isCancelled v options' = false)
    (created : Creates settings tag options w area w₁)
    (unwritten : area.writeEntry w₁.disk w₁.cwd (EntryExtension.ofTag tag) source =
      .error failure) :
    ∃ v' result', Outcome tc settings source tag options' v .entry v' result' ∧
      SameButName (.error failure) result' := by
  obtain ⟨v₁, parent, random, random', created', lettered, lettered', rfl, hwritten⟩ :=
    exists_creates_alike same live' created source
  cases hwritten with
  | failed unwritten₁ unwritten' =>
    rw [unwritten₁, Except.error.injEq] at unwritten
    subst unwritten
    exact ⟨_, _, .entry created' unwritten', parent, random, random', lettered, lettered',
      .failed (.staging (.inside [(EntryExtension.ofTag tag).fileName]) (.same _))⟩
  | written written _ =>
    rw [written] at unwritten
    cases unwritten

end Compilation

end SnippetForge
