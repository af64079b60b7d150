import SnippetForge.Proofs.Disk.Trees

/-!
# Disks that agree on a way

Two disks with the same nodes are followed alike by every path. Two disks that agree only along a
place are followed alike by every path that goes along that place, up to the name where it leaves.
-/

namespace SnippetForge

namespace Path

/-! ### How long paths are -/

/-- A child is longer than its directory by its name and a slash, unless a slash is there. -/
lemma size_child (p : Path) {name : String} (hname : IsProper name) :
    (p.child name).text.utf8ByteSize =
      p.text.utf8ByteSize + (if p.text = "" ∨ endsWithSlash p.text then 0 else 1) +
        name.utf8ByteSize := by
  rw [text_child p hname.slashless]
  split
  · rw [String.utf8ByteSize_append, Nat.add_zero]
  · rw [String.utf8ByteSize_append, String.utf8ByteSize_append]
    rfl

/-- A child of a child is longer by its name and a slash. -/
lemma size_child_child (p : Path) {name name' : String} (hname : IsProper name)
    (hname' : IsProper name') : ((p.child name).child name').text.utf8ByteSize =
      (p.child name).text.utf8ByteSize + 1 + name'.utf8ByteSize := by
  have hne := text_child_ne_empty p hname.slashless hname.ne_empty
  rw [size_child _ hname', if_neg]
  simp [hne, endsWithSlash_child p hname.slashless hname.ne_empty]

/-- Whether a text has a zero in it, which no path can have. -/
def hasNul (s : String) : Bool :=
  s.toList.contains (Char.ofNat 0)

/-- A child has a zero in it if its directory has one or its name. -/
lemma hasNul_child (p : Path) {name : String} (hname : IsProper name) :
    hasNul (p.child name).text = (hasNul p.text || hasNul name) := by
  rw [text_child p hname.slashless]
  unfold hasNul
  split
  · simp
  · have hslash : ("/" : String).toList.contains (Char.ofNat 0) = false := by decide
    simp only [String.toList_append, List.contains_append, hslash, Bool.or_false]

/-- A descendant of a child is longer by a name and a slash for each step. -/
lemma size_descend (p : Path) {name : String} (hname : IsProper name) {rel : Place}
    (hrel : ∀ n ∈ rel, IsProper n) : ((p.child name).descend rel).text.utf8ByteSize =
      (p.child name).text.utf8ByteSize + (rel.map (·.utf8ByteSize + 1)).sum := by
  induction rel generalizing p name with
  | nil => rfl
  | cons first rel ih =>
    have hfirst := hrel first (List.mem_cons_self ..)
    have hrest := ih (p.child name) hfirst fun n hn => hrel n (List.mem_cons_of_mem _ hn)
    rw [size_child_child p hname hfirst] at hrest
    rw [List.map_cons, List.sum_cons]
    exact hrest.trans (by omega)

lemma hasNul_descend (p : Path) {rel : Place} (hrel : ∀ n ∈ rel, IsProper n) :
    hasNul (p.descend rel).text = (hasNul p.text || rel.any hasNul) := by
  induction rel generalizing p with
  | nil => exact (Bool.or_false _).symm
  | cons first rel ih =>
    have hrest := ih (p.child first) fun n hn => hrel n (List.mem_cons_of_mem _ hn)
    rw [hasNul_child p (hrel first (List.mem_cons_self ..)), Bool.or_assoc] at hrest
    exact hrest

end Path

namespace Disk

variable {d d' : Disk} {followLast : Bool}

/-! ### The same nodes -/

lemma walk_congr (h : ∀ q, d.node? q = d'.node? q) (place : Place) (node : Node)
    (names : List String) : walk d followLast place node names = walk d' followLast place node names := by
  induction names generalizing place node with
  | nil => rfl
  | cons name rest ih => cases node <;> simp only [walk, h, ih]

/-- On disks with the same nodes every path leads to the same. -/
lemma locate_congr (h : ∀ q, d.node? q = d'.node? q) (cwd : Place) (p : Path) :
    d.locate cwd followLast p = d'.locate cwd followLast p := by
  have hsettle : ∀ links stop, settle d followLast links stop = settle d' followLast links stop := by
    intro links
    induction links with
    | zero => intro stop; cases stop <;> rfl
    | succ links ih =>
      intro stop
      cases stop with
      | goOn directory names => simp only [settle, walk_congr h, ih]
      | _ => rfl
  simp only [locate, walk_congr h, hsettle]

/-- On disks with the same nodes every path means the same place. -/
lemma canonical_congr (h : ∀ q, d.node? q = d'.node? q) (cwd : Place) (p : Path) :
    d.canonical cwd p = d'.canonical cwd p := by
  unfold canonical locateNode
  rw [locate_congr h, h]

/-- On disks with the same entries every path leads to the same entry. -/
lemma locateEntry_congr (h : ∀ q, d.entry? q = d'.entry? q) (cwd : Place) (p : Path) :
    d.locateEntry cwd followLast p = d'.locateEntry cwd followLast p := by
  have hnodes : ∀ q, d.node? q = d'.node? q := fun q => by rw [node?, node?, h]
  simp only [locateEntry, locateNode, locate_congr hnodes, h]

/-- On disks with the same entries every file says the same. -/
lemma readText_congr (h : ∀ q, d.entry? q = d'.entry? q) (cwd : Place) (p : Path) :
    d.readText cwd p = d'.readText cwd p := by
  simp only [readText, readBytes, locateEntry_congr h]

/-- On disks with the same entries the same files may be executed. -/
lemma isExecutable_congr (h : ∀ q, d.entry? q = d'.entry? q) (cwd : Place) (p : Path) :
    d.isExecutable cwd p = d'.isExecutable cwd p := by
  simp only [isExecutable, targetEntry?, locateEntry_congr h]

/-- What is added to a disk does not change the place that a path means. -/
lemma canonical_mono (hsub : ∀ place node, d.node? place = some node → d'.node? place = some node)
    {cwd place : Place} {p : Path} (h : d.canonical cwd p = .ok place) :
    d'.canonical cwd p = .ok place := by
  unfold canonical at h ⊢
  cases hlocate : d.locateNode cwd true p with
  | error fault =>
    rw [hlocate] at h
    cases h
  | ok found =>
    obtain ⟨q, node⟩ := found
    obtain ⟨hsound, hresolve⟩ := locate_eq_ok_iff.mp (locateNode_eq_ok_iff.mp hlocate)
    obtain ⟨used, hused, harr⟩ := exists_arrives_of_taken hresolve
    have hlocate' : d'.locateNode cwd true p = .ok (q, node) := locateNode_eq_ok_iff.mpr
      (locate_eq_ok_iff.mpr ⟨hsound, (harr.mono hsub).resolve_eq hused⟩)
    rw [hlocate] at h
    rw [hlocate']
    simp only at h ⊢
    split at h
    · cases h
    · next hshort =>
      rw [if_neg hshort]
      split at h
      · cases h
      · next hstart =>
        rw [if_neg]
        · exact h
        · rw [Bool.and_eq_true, not_and, Bool.not_eq_true, Option.isNone_eq_false_iff,
            Option.isSome_iff_exists] at hstart ⊢
          intro hrelative
          obtain ⟨m, hm⟩ := hstart hrelative
          exact ⟨m, hsub _ _ hm⟩

/-! ### The same nodes on the way -/

/-- Walks along a place without links go alike on two disks that agree along it. Either both are
stopped by the same error, whatever the path goes on to, or both arrive. -/
lemma resolve_along {place : Place} {names : List String}
    (hnames : ∀ name ∈ names, IsProper name)
    (hagree : ∀ above, above <+: names → d'.node? (place ++ above) = d.node? (place ++ above))
    (hlink : ∀ above target, above <+: names → d.node? (place ++ above) ≠ some (.link target)) :
    (∃ error, error ≠ .exists ∧ ∀ followLast links name rest,
        resolve d followLast links place .directory (names ++ name :: rest) = .error error ∧
        resolve d' followLast links place .directory (names ++ name :: rest) = .error error) ∨
      (∀ name ∈ names, IsSought name) ∧
        Arrives d 0 place .directory names (place ++ names) .directory ∧
        Arrives d' 0 place .directory names (place ++ names) .directory := by
  induction names generalizing place with
  | nil =>
    rw [List.append_nil]
    exact .inr ⟨by simp, .here, .here⟩
  | cons first names ih =>
    have hfirst := hnames first (List.mem_cons_self ..)
    by_cases hlong : maxName < first.utf8ByteSize
    · exact .inl ⟨.nameTooLong, by simp, fun _ _ _ _ =>
        ⟨resolve_long hfirst.ne_current hfirst.ne_up hlong _ _ _,
          resolve_long hfirst.ne_current hfirst.ne_up hlong _ _ _⟩⟩
    have hsought : IsSought first := ⟨hfirst.ne_current, hfirst.ne_up, Nat.not_lt.mp hlong⟩
    have hone : [first] <+: first :: names := by simp
    have hsame := hagree [first] hone
    rcases hnode : d.node? (place ++ [first]) with _ | node
    · rw [hnode] at hsame
      refine .inl ⟨.noEntry, by simp, fun _ _ name rest => ?_⟩
      constructor <;> rw [List.cons_append, resolve_missing hsought (by assumption), if_neg] <;>
        simp
    rw [hnode] at hsame
    have hreal : node.isLink = false := by
      cases node with
      | link target => exact absurd hnode (hlink [first] target hone)
      | _ => rfl
    by_cases hdirectory : node = .directory
    · subst hdirectory
      have hcons : ∀ above : Place, place ++ [first] ++ above = place ++ first :: above := by simp
      have hrest := @ih (place ++ [first]) (fun n hn => hnames n (List.mem_cons_of_mem _ hn))
        (fun above h => by
          rw [hcons]
          exact hagree _ (List.cons_prefix_cons.mpr ⟨rfl, h⟩))
        (fun above target h => by
          rw [hcons]
          exact hlink _ target (List.cons_prefix_cons.mpr ⟨rfl, h⟩))
      rcases hrest with ⟨error, hne, herror⟩ | ⟨hnamed, harr, harr'⟩
      · refine .inl ⟨error, hne, fun fl links name rest => ?_⟩
        rw [List.cons_append, resolve_node hsought hnode hreal, resolve_node hsought hsame hreal]
        exact herror fl links name rest
      · rw [hcons] at harr harr'
        refine .inr ⟨fun n hn => ?_, .node hsought hnode hreal harr, .node hsought hsame hreal harr'⟩
        rcases List.mem_cons.mp hn with rfl | hn
        · exact hsought
        · exact hnamed n hn
    · refine .inl ⟨.notDirectory, by simp, fun fl links name rest => ?_⟩
      rw [List.cons_append, resolve_node hsought hnode hreal, resolve_node hsought hsame hreal]
      cases names <;> exact ⟨resolve_blocked hdirectory _ _ _ _, resolve_blocked hdirectory _ _ _ _⟩

/-- A place is arrived at along its own names if these can be looked up. -/
lemma WellFormed.arrives (wf : d.WellFormed) {place : Place} (hsought : ∀ n ∈ place, IsSought n)
    (hplace : d.node? place = some .directory) : Arrives d 0 [] .directory place place .directory := by
  induction place using List.reverseRecOn with
  | nil => exact .here
  | append_singleton place name ih =>
    obtain ⟨e, he, -⟩ := node?_eq_some_iff.mp hplace
    have habove := ih (fun n hn => hsought n (List.mem_append_left _ hn)) (wf.node?_above he)
    exact habove.append_node (hsought name (by simp)) hplace rfl

/-- What is arrived at is there, and it is no link. -/
lemma Arrives.node?_eq (wf : d.WellFormed) {links : Nat} {place q : Place} {node m : Node}
    {names : List String} (h : Arrives d links place node names q m)
    (hnode : d.node? place = some node) (hlink : node.isLink = false) :
    d.node? q = some m ∧ m.isLink = false := by
  induction h with
  | here => exact ⟨hnode, hlink⟩
  | current _ ih => exact ih hnode hlink
  | @up links place _ _ _ _ ih =>
    refine ih ?_ rfl
    rcases List.eq_nil_or_concat place with rfl | ⟨above, name, rfl⟩
    · rfl
    · obtain ⟨e, he, -⟩ := node?_eq_some_iff.mp hnode
      rw [List.concat_eq_append] at he ⊢
      rw [List.dropLast_concat]
      exact wf.node?_above he
  | node _ found real _ ih => exact ih found real
  | @link links place q name rest target m _ _ _ ih =>
    refine ih ?_ rfl
    unfold linkStart
    split
    · rfl
    · exact hnode

/-! ### Paths that are too long -/

/-- A path that is only too long leads nowhere. -/
lemma locate_of_long {p : Path} (hnul : Path.hasNul p.text = false)
    (hlong : maxPath < p.text.utf8ByteSize) (cwd : Place) :
    d.locate cwd followLast p = .error (.system .nameTooLong) := by
  have hne : p.text ≠ "" := by
    intro h
    rw [h] at hlong
    exact absurd hlong (by decide)
  unfold Path.hasNul at hnul
  simp only [locate, hnul, Bool.false_eq_true, if_false, hne, hlong, if_true]

lemma isSound_iff {p : Path} (hne : p.text ≠ "") :
    IsSound p ↔ Path.hasNul p.text = false ∧ p.text.utf8ByteSize ≤ maxPath :=
  ⟨fun h => ⟨h.no_nul, h.short⟩, fun h => ⟨h.1, hne, h.2⟩⟩

lemma locate_of_nul {p : Path} (hnul : Path.hasNul p.text = true) (cwd : Place) :
    d.locate cwd followLast p = .error .nulInPath := by
  unfold Path.hasNul at hnul
  simp only [locate, hnul, if_true]

/-- Paths of the same length that agree on having a zero in them fail alike. -/
lemma locate_of_not_isSound {p p' : Path} (hne : p.text ≠ "") (h : ¬IsSound p)
    (hnul : Path.hasNul p'.text = Path.hasNul p.text)
    (hsize : p'.text.utf8ByteSize = p.text.utf8ByteSize) :
    ∃ fault, fault ≠ .system .exists ∧
      (∀ (d : Disk) cwd, d.locate cwd followLast p = .error fault) ∧
        ∀ (d : Disk) cwd, d.locate cwd followLast p' = .error fault := by
  cases hn : Path.hasNul p.text with
  | true =>
    rw [hn] at hnul
    exact ⟨.nulInPath, by simp, fun _ cwd => locate_of_nul hn cwd, fun _ cwd => locate_of_nul hnul cwd⟩
  | false =>
    have hlong : maxPath < p.text.utf8ByteSize := by
      by_contra hshort
      exact h ((isSound_iff hne).mpr ⟨hn, Nat.not_lt.mp hshort⟩)
    rw [hn] at hnul
    exact ⟨.system .nameTooLong, by simp, fun _ cwd => locate_of_long hn hlong cwd,
      fun _ cwd => locate_of_long hnul (hsize ▸ hlong) cwd⟩

end Disk

end SnippetForge
