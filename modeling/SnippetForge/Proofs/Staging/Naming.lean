import SnippetForge.Proofs.Disk.Agreement
import SnippetForge.Proofs.Disk.Regions
import SnippetForge.Proofs.Staging.Areas

/-!
# Names of staging areas

The name of an area is a fixed beginning and six random letters or digits. All such names are alike
to the file system: which one is tried decides whether it is taken, and nothing else. `Admits` says
what a directory must be like for an area to be made in it, and two names that are not taken either
are both made or fail with the same fault.
-/

namespace SnippetForge

lemma EntryExtension.hasNul_fileName (tag : String) : Path.hasNul (ofTag tag).fileName = false := by
  have hzero : Char.ofNat 0 ∉ (ofTag tag).extension.toList := fun h =>
    absurd (isAlphanum_ofTag tag _ h) (by decide)
  unfold Path.hasNul
  rw [List.contains_eq_mem, decide_eq_false_iff_not, toList_fileName, List.mem_append, not_or]
  exact ⟨by decide, hzero⟩

namespace StagingArea

variable {d d' : Disk} {cwd cwd' parent : Place} {random random' : String}

/-! ### Random parts -/

/-- Whether a text can be proposed as the random part of a name: it has six letters or digits. -/
structure IsRandomPart (random : String) : Prop where
  length : random.toList.length = 6
  letters : ∀ c ∈ random.toList, c ∈ nameCharacters

instance (random : String) : Decidable (IsRandomPart random) :=
  decidable_of_iff (random.toList.length = 6 ∧ random.toList.all nameCharacters.contains = true)
    ⟨fun ⟨h₁, h₂⟩ => ⟨h₁, by simpa using h₂⟩, fun ⟨h₁, h₂⟩ => ⟨h₁, by simpa using h₂⟩⟩

namespace IsRandomPart

lemma slashless (h : IsRandomPart random) : '/' ∉ random.toList := fun hslash =>
  absurd (h.letters _ hslash) (by decide)

lemma hasNul_eq (h : IsRandomPart random) : Path.hasNul random = false := by
  unfold Path.hasNul
  rw [List.contains_eq_mem, decide_eq_false_iff_not]
  exact fun hnul => absurd (h.letters _ hnul) (by decide)

/-- Letters and digits take one byte each. -/
lemma size_eq (h : IsRandomPart random) : random.utf8ByteSize = 6 := by
  have hall : nameCharacters.all (·.utf8Size == 1) = true := by decide
  have hone : ∀ c ∈ nameCharacters, c.utf8Size = 1 := by simpa using hall
  have hsize := Text.size_ofList fun c hc => hone c (h.letters c hc)
  rwa [String.ofList_toList, h.length] at hsize

lemma isProper (h : IsRandomPart random) : IsProper (directoryName random) :=
  isProper_directoryName h.slashless

lemma size_directoryName (h : IsRandomPart random) : (directoryName random).utf8ByteSize = 16 := by
  rw [directoryName, String.utf8ByteSize_append, h.size_eq]
  rfl

lemma isSought (h : IsRandomPart random) : Disk.IsSought (directoryName random) :=
  ⟨h.isProper.ne_current, h.isProper.ne_up, by rw [h.size_directoryName]; decide⟩

lemma hasNul_directoryName (h : IsRandomPart random) :
    Path.hasNul (directoryName random) = false := by
  have hstart : Path.hasNul nameStart = false := by decide
  unfold Path.hasNul at hstart ⊢
  have hrandom := h.hasNul_eq
  unfold Path.hasNul at hrandom
  rw [directoryName, String.toList_append, List.contains_append, hstart, hrandom]
  rfl

end IsRandomPart

/-- The place of the area below a place with a random part. -/
def placeBelow (parent : Place) (random : String) : Place :=
  parent ++ [directoryName random]

lemma directoryName_inj (h : directoryName random = directoryName random') : random = random' := by
  have hlists := congrArg String.toList h
  simp only [directoryName, String.toList_append, List.append_cancel_left_eq] at hlists
  exact String.toList_inj.mp hlists

/-- The trees of two areas below one place have nothing in common. -/
lemma disjoint_placeBelow (h : random ≠ random') :
    Disjoint (placeBelow parent random).tree (placeBelow parent random').tree :=
  Place.disjoint_tree fun heq => h (directoryName_inj heq)

/-- Different random parts make different areas. -/
lemma below_inj (h : IsRandomPart random) (h' : IsRandomPart random')
    (heq : below parent random = below parent random') : random = random' := by
  have htext := congrArg (·.path.text) heq
  simp only [path_below, Path.text_child _ h.isProper.slashless,
    Path.text_child _ h'.isProper.slashless] at htext
  have hlists := congrArg String.toList htext
  split at hlists
  · simp only [String.toList_append, List.append_cancel_left_eq] at hlists
    exact directoryName_inj (String.toList_inj.mp hlists)
  · simp only [String.toList_append, List.append_cancel_left_eq] at hlists
    exact directoryName_inj (String.toList_inj.mp hlists)

/-! ### Paths of areas -/

lemma below_path_ne_empty (h : IsRandomPart random) : (below parent random).path.text ≠ "" := by
  intro hempty
  have habs := isAbsolute_below parent h.slashless
  simp [Path.isAbsolute, hempty] at habs

/-- All paths of areas in a directory have the same length. -/
lemma size_below (h : IsRandomPart random) (h' : IsRandomPart random') :
    (below parent random').path.text.utf8ByteSize = (below parent random).path.text.utf8ByteSize := by
  rw [path_below, path_below, Path.size_child _ h.isProper, Path.size_child _ h'.isProper,
    h.size_directoryName, h'.size_directoryName]

lemma hasNul_below (h : IsRandomPart random) :
    Path.hasNul (below parent random).path.text = Path.hasNul parent.path.text := by
  rw [path_below, Path.hasNul_child _ h.isProper, h.hasNul_directoryName, Bool.or_false]

/-- Whether the path of an area can be followed does not depend on its random part. -/
lemma isSound_below (h : IsRandomPart random) (h' : IsRandomPart random')
    (hsound : Disk.IsSound (below parent random).path) : Disk.IsSound (below parent random').path := by
  rw [Disk.isSound_iff (below_path_ne_empty h), hasNul_below h] at hsound
  rw [Disk.isSound_iff (below_path_ne_empty h'), hasNul_below h', size_below h h']
  exact hsound

/-- The path of an area is walked along its place. -/
lemma names_below (proper : ∀ n ∈ parent, IsProper n) (h : IsRandomPart random) :
    (below parent random).path.names = placeBelow parent random := by
  rw [path_below, Path.names_child _ h.isProper.slashless h.isProper.ne_empty,
    Place.names_path proper]
  rfl

/-- What the path of an area leads to. -/
lemma locate_below {followLast : Bool} (proper : ∀ n ∈ parent, IsProper n) (h : IsRandomPart random)
    (hsound : Disk.IsSound (below parent random).path) :
    d.locate cwd followLast (below parent random).path =
      match Disk.resolve d followLast Disk.maxLinks [] .directory (parent ++ [directoryName random]) with
      | .ok spot => .ok spot
      | .error error => .error (.system error) := by
  have hwalk : Disk.walkNames (below parent random).path = parent ++ [directoryName random] := by
    rw [path_below, Path.walkNames_child _ h.isProper.slashless h.isProper.ne_empty,
      Place.names_path proper]
  have hlocate := @Disk.locate_of_sound d followLast _ hsound cwd
  rw [hwalk, Disk.startOf, isAbsolute_below parent h.slashless, if_pos rfl] at hlocate
  exact hlocate

/-! ### The directory that areas are made in -/

/-- On disks with the same nodes areas are made in the same place. -/
lemma parentOf_congr (h : ∀ q, d.node? q = d'.node? q) (cwd : Place) (root : Path) :
    parentOf d cwd root = parentOf d' cwd root := by
  rw [parentOf, parentOf, Disk.canonical_congr h]

lemma parentOf_eq_ok_iff {root : Path} :
    parentOf d cwd root = .ok parent ↔ d.canonical cwd root = .ok parent := by
  unfold parentOf
  cases d.canonical cwd root <;> simp

/-- The place that areas are made in is there, and is no link. -/
lemma exists_node_of_parentOf (wf : d.WellFormed) (standing : d.IsStanding cwd) {root : Path}
    (h : parentOf d cwd root = .ok parent) :
    ∃ node, d.node? parent = some node ∧ node.isLink = false := by
  rw [parentOf_eq_ok_iff] at h
  unfold Disk.canonical at h
  cases hlocate : d.locateNode cwd true root with
  | error fault =>
    rw [hlocate] at h
    cases h
  | ok found =>
    obtain ⟨q, node⟩ := found
    obtain ⟨-, hresolve⟩ := Disk.locate_eq_ok_iff.mp (Disk.locateNode_eq_ok_iff.mp hlocate)
    obtain ⟨used, -, harr⟩ := Disk.exists_arrives_of_taken hresolve
    rw [hlocate] at h
    simp only at h
    split at h
    · cases h
    split at h
    · cases h
    · next hstart =>
      cases h
      have hdirectory : d.node? (Disk.startOf cwd root) = some .directory := by
        unfold Disk.startOf
        cases habs : root.isAbsolute with
        | true => rfl
        | false =>
          obtain ⟨m, hm⟩ : ∃ m, d.node? cwd = some m := by
            rw [habs, Bool.not_false, Bool.true_and, Bool.not_eq_true, Option.isNone_eq_false_iff,
              Option.isSome_iff_exists] at hstart
            exact hstart
          have hm' : d.node? cwd = some .directory := by rw [hm, standing.node?_eq wf hm]
          exact hm'
      exact ⟨node, harr.node?_eq wf hdirectory rfl⟩

/-! ### Trying a name -/

lemma attempt_of_error {fault : Fault} (h : IsRandomPart random)
    (hlocate : d.locate cwd false (below parent random).path = .error fault)
    (hne : fault ≠ .system .exists) :
    attempt d cwd parent random = .failed (.at (below parent random).path fault) := by
  unfold attempt Disk.makeDirectory Disk.make Disk.freePlace
  simp only
  rw [path_below, Disk.dropEndSlashes_child _ h.isProper, ← path_below, hlocate]
  simp only

lemma attempt_of_taken {q : Place} {node : Node} (h : IsRandomPart random)
    (hlocate : d.locate cwd false (below parent random).path = .ok (.taken q node)) :
    attempt d cwd parent random = .taken := by
  unfold attempt Disk.makeDirectory Disk.make Disk.freePlace
  simp only
  rw [path_below, Disk.dropEndSlashes_child _ h.isProper, ← path_below, hlocate]

lemma attempt_of_free (h : IsRandomPart random)
    (hlocate : d.locate cwd false (below parent random).path =
      .ok (.free parent (directoryName random))) :
    attempt d cwd parent random =
      if d.mayChange parent then
        .made (below parent random) (d.add (placeBelow parent random) .directory Mode.secluded)
      else .failed (.at (below parent random).path (.system .accessDenied)) := by
  unfold attempt Disk.makeDirectory Disk.make Disk.freePlace
  simp only
  rw [path_below, Disk.dropEndSlashes_child _ h.isProper, ← path_below, hlocate]
  simp only
  cases d.mayChange parent <;> rfl

/-- An area of a name can be made below a place. -/
structure Admits (d : Disk) (parent : Place) (random : String) : Prop where
  free : d.entry? (placeBelow parent random) = none
  above : d.node? parent = some .directory
  changeable : d.mayChange parent = true
  sought : ∀ name ∈ placeBelow parent random, Disk.IsSought name
  sound : Disk.IsSound (below parent random).path
  settled : Place.running.isPrefixOf parent = false

/-- What the path of an area leads to if its directory is arrived at. -/
lemma locate_below_of_arrives (h : IsRandomPart random) (proper : ∀ n ∈ parent, IsProper n)
    (hsound : Disk.IsSound (below parent random).path)
    (harr : Disk.Arrives d 0 [] .directory parent parent .directory) :
    d.locate cwd false (below parent random).path =
      match d.node? (placeBelow parent random) with
      | some node => .ok (.taken (placeBelow parent random) node)
      | none =>
        if (d.node? parent).isSome && !Place.running.isPrefixOf parent then
          .ok (.free parent (directoryName random))
        else .error (.system .noEntry) := by
  rw [locate_below proper h hsound, ← Nat.zero_add Disk.maxLinks, harr.resolve_append (by simp)]
  unfold placeBelow
  cases hnode : d.node? (parent ++ [directoryName random]) with
  | some node => rw [Disk.resolve_last h.isSought hnode]
  | none =>
    rw [Disk.resolve_missing h.isSought hnode, List.isEmpty_nil, Bool.true_and]
    cases (d.node? parent).isSome && !Place.running.isPrefixOf parent <;> rfl

/-- Along the way to their directory, all paths of areas go alike on disks that agree on that way. -/
lemma locate_below_alike (h : IsRandomPart random) (h' : IsRandomPart random') (wf : d.WellFormed)
    {node : Node} (there : d.node? parent = some node) (real : node.isLink = false)
    (agree : ∀ above, above <+: parent → d'.entry? above = d.entry? above) :
    (∃ fault, fault ≠ .system .exists ∧
        (∀ cwd, d.locate cwd false (below parent random).path = .error fault) ∧
        ∀ cwd, d'.locate cwd false (below parent random').path = .error fault) ∨
      Disk.IsSound (below parent random).path ∧ (∀ n ∈ parent, Disk.IsSought n) ∧
        Disk.Arrives d 0 [] .directory parent parent .directory ∧
        Disk.Arrives d' 0 [] .directory parent parent .directory := by
  have proper : ∀ n ∈ parent, IsProper n := fun n hn => wf.isProper there hn
  by_cases hsound : Disk.IsSound (below parent random).path
  swap
  · obtain ⟨fault, hne, hlocate, hlocate'⟩ := @Disk.locate_of_not_isSound false _ _
      (below_path_ne_empty h) hsound ((hasNul_below h').trans (hasNul_below h).symm) (size_below h h')
    exact .inl ⟨fault, hne, hlocate d, hlocate' d'⟩
  have hnode : ∀ above, above <+: parent → d'.node? ([] ++ above) = d.node? ([] ++ above) :=
    fun above hprefix => by rw [List.nil_append, Disk.node?, Disk.node?, agree above hprefix]
  have hlink : ∀ above target, above <+: parent → d.node? ([] ++ above) ≠ some (.link target) := by
    intro above target hprefix hfound
    obtain ⟨e, he, -⟩ := Disk.node?_eq_some_iff.mp there
    rw [List.nil_append] at hfound
    by_cases heq : above = parent
    · rw [heq, there] at hfound
      cases hfound
      cases real
    · rw [wf.node?_of_prefix he hprefix heq] at hfound
      cases hfound
  rcases Disk.resolve_along proper hnode hlink with ⟨error, hne, hstop⟩ | ⟨hsought, harr, harr'⟩
  · refine .inl ⟨.system error, by simpa using hne, fun cwd => ?_, fun cwd => ?_⟩
    · rw [locate_below proper h hsound, (hstop false _ _ _).1]
    · rw [locate_below proper h' (isSound_below h h' hsound), (hstop false _ _ _).2]
  · rw [List.nil_append] at harr harr'
    exact .inr ⟨hsound, hsought, harr, harr'⟩

/-- A name whose place is free is not taken. -/
lemma attempt_ne_taken (h : IsRandomPart random) (wf : d.WellFormed) {node : Node}
    (there : d.node? parent = some node) (real : node.isLink = false)
    (hfree : d.entry? (placeBelow parent random) = none) :
    attempt d cwd parent random ≠ .taken := by
  rcases locate_below_alike h h wf there real fun _ _ => rfl with
    ⟨fault, hne, hlocate, -⟩ | ⟨hsound, -, harr, -⟩
  · rw [attempt_of_error h (hlocate cwd) hne]
    simp
  · have hlocate := @locate_below_of_arrives _ cwd _ _ h (fun n hn => wf.isProper there hn) hsound
      harr
    rw [Disk.node?_eq_none_iff.mpr hfree] at hlocate
    simp only at hlocate
    split at hlocate
    · rw [attempt_of_free h hlocate]
      cases d.mayChange parent <;> simp
    · rw [attempt_of_error h hlocate (by simp)]
      simp

/-- A name that is not taken either makes an area or fails with a fault that does not depend on the
name, nor on anything on the disk but the way to the directory. -/
lemma attempt_alike (h : IsRandomPart random) (h' : IsRandomPart random') (wf : d.WellFormed)
    {node : Node} (there : d.node? parent = some node) (real : node.isLink = false)
    (agree : ∀ above, above <+: parent → d'.entry? above = d.entry? above)
    (untaken : attempt d cwd parent random ≠ .taken)
    (untaken' : attempt d' cwd' parent random' ≠ .taken) :
    (∃ fault, attempt d cwd parent random = .failed (.at (below parent random).path fault) ∧
        attempt d' cwd' parent random' = .failed (.at (below parent random').path fault)) ∨
      (Admits d parent random ∧ Admits d' parent random') := by
  have proper : ∀ n ∈ parent, IsProper n := fun n hn => wf.isProper there hn
  rcases locate_below_alike h h' wf there real agree with
    ⟨fault, hne, hlocate, hlocate'⟩ | ⟨hsound, hsought, harr, harr'⟩
  · exact .inl ⟨fault, attempt_of_error h (hlocate cwd) hne, attempt_of_error h' (hlocate' cwd') hne⟩
  have hsound' := isSound_below h h' hsound
  have hlocate := @locate_below_of_arrives _ cwd _ _ h proper hsound harr
  have hlocate' := @locate_below_of_arrives _ cwd' _ _ h' proper hsound' harr'
  have hparent : d.node? parent = some .directory := (harr.node?_eq wf rfl rfl).1
  have hparent' : d'.node? parent = some .directory := by
    rw [Disk.node?, agree parent List.prefix_rfl]
    exact hparent
  -- Neither name is taken, so both are free, unless nothing can be made there at all.
  have hfree : d.node? (placeBelow parent random) = none := by
    cases hp : d.node? (placeBelow parent random) with
    | none => rfl
    | some m =>
      rw [hp] at hlocate
      exact absurd (attempt_of_taken h hlocate) untaken
  have hfree' : d'.node? (placeBelow parent random') = none := by
    cases hp : d'.node? (placeBelow parent random') with
    | none => rfl
    | some m =>
      rw [hp] at hlocate'
      exact absurd (attempt_of_taken h' hlocate') untaken'
  rw [hfree, hparent] at hlocate
  rw [hfree', hparent'] at hlocate'
  cases hrunning : Place.running.isPrefixOf parent with
  | true =>
    simp only [hrunning] at hlocate hlocate'
    exact .inl ⟨.system .noEntry, attempt_of_error h hlocate (by simp),
      attempt_of_error h' hlocate' (by simp)⟩
  | false =>
    simp only [hrunning] at hlocate hlocate'
    have hchange : d'.mayChange parent = d.mayChange parent := by
      rw [Disk.mayChange, Disk.mayChange, agree parent List.prefix_rfl]
    have hattempt := attempt_of_free h hlocate
    have hattempt' := attempt_of_free h' hlocate'
    rw [hchange] at hattempt'
    cases hmay : d.mayChange parent with
    | false =>
      rw [hmay] at hattempt hattempt'
      exact .inl ⟨_, hattempt, hattempt'⟩
    | true =>
      have hall : ∀ {random}, IsRandomPart random → ∀ n ∈ placeBelow parent random,
          Disk.IsSought n := by
        intro random hr n hn
        rcases List.mem_append.mp hn with hn | hn
        · exact hsought n hn
        · rw [List.mem_singleton.mp hn]
          exact hr.isSought
      exact .inr
        ⟨⟨Disk.node?_eq_none_iff.mp hfree, hparent, hmay, hall h, hsound, hrunning⟩,
          ⟨Disk.node?_eq_none_iff.mp hfree', hparent', hchange.trans hmay, hall h', hsound',
            hrunning⟩⟩

/-- Where an area of a name can be made, trying the name makes it. -/
lemma Admits.attempt_eq (wf : d.WellFormed) (h : IsRandomPart random)
    (admits : Admits d parent random) : attempt d cwd parent random =
      .made (below parent random) (d.add (placeBelow parent random) .directory Mode.secluded) := by
  have harr := wf.arrives (fun n hn => admits.sought n (List.mem_append_left _ hn)) admits.above
  have hlocate := @locate_below_of_arrives _ cwd _ _ h (fun n hn => wf.isProper admits.above hn)
    admits.sound harr
  rw [Disk.node?_eq_none_iff.mpr admits.free, admits.above, admits.settled] at hlocate
  rw [attempt_of_free h hlocate, if_pos admits.changeable]

/-- A name that makes an area could be the name of one there. -/
lemma admits_of_made (h : IsRandomPart random) (wf : d.WellFormed) {node : Node}
    (there : d.node? parent = some node) (real : node.isLink = false) {area : StagingArea}
    {disk : Disk} (made : attempt d cwd parent random = .made area disk) :
    Admits d parent random := by
  have huntaken : attempt d cwd parent random ≠ .taken := by simp [made]
  rcases attempt_alike h h wf there real (fun _ _ => rfl) huntaken huntaken with
    ⟨fault, hfailed, -⟩ | ⟨admits, -⟩
  · rw [made] at hfailed
    cases hfailed
  · exact admits

/-- The path of an area leads nowhere if its place is free. -/
lemma linkOrNode?_below_eq_none (h : IsRandomPart random) (wf : d.WellFormed)
    (above : d.node? parent = some .directory) (free : d.entry? (placeBelow parent random) = none)
    (cwd : Place) : d.linkOrNode? cwd (below parent random).path = none := by
  unfold Disk.linkOrNode?
  cases hlocate : d.locateNode cwd false (below parent random).path with
  | error fault => rfl
  | ok found =>
    have hspot := Disk.locateNode_eq_ok_iff.mp hlocate
    exact absurd (attempt_of_taken h hspot) (attempt_ne_taken h wf above rfl free)

end StagingArea

end SnippetForge
