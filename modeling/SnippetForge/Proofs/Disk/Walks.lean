import SnippetForge.Proofs.Disk.Names

/-!
# Where walks lead

Following a path takes two functions, one that walks to the next link and one that counts links.
`resolve` is both at once, and its equations read one name at a time. `Arrives` is its graph where
every link is followed, with the number of links that it takes. A walk along names that arrives
somewhere can be cut off a longer one, and whatever leads somewhere starts with walks that arrive.
Together these two facts reduce questions about a path to questions about its last name.
-/

namespace SnippetForge.Disk

variable {d : Disk} {followLast : Bool}

/-- What names lead to from a node, by following at most `links` links. -/
def resolve (d : Disk) (followLast : Bool) (links : Nat) (place : Place) (node : Node)
    (names : List String) : Except SystemError Spot :=
  settle d followLast links (walk d followLast place node names)

/-- Whether a name is looked up in a directory: it has a meaning there and is short enough. -/
structure IsSought (name : String) : Prop where
  ne_current : name ≠ "."
  ne_up : name ≠ ".."
  short : name.utf8ByteSize ≤ maxName

/-- Where a link leads on from a directory. -/
def linkStart (directory : Place) (target : Path) : Place :=
  if target.isAbsolute then [] else directory

/-! ### One name at a time -/

section Steps

attribute [local simp] walk

@[simp]
lemma resolve_nil (links : Nat) (place : Place) (node : Node) :
    resolve d followLast links place node [] = .ok (.taken place node) := by
  cases links <;> rfl

@[simp]
lemma resolve_current (links : Nat) (place : Place) (rest : List String) :
    resolve d followLast links place .directory ("." :: rest) =
      resolve d followLast links place .directory rest := by
  simp [resolve]

@[simp]
lemma resolve_up (links : Nat) (place : Place) (rest : List String) :
    resolve d followLast links place .directory (".." :: rest) =
      resolve d followLast links place.dropLast .directory rest := by
  simp [resolve]

/-- Only a directory has names in it. -/
lemma resolve_blocked {node : Node} (h : node ≠ .directory) (links : Nat) (place : Place)
    (name : String) (rest : List String) :
    resolve d followLast links place node (name :: rest) = .error .notDirectory := by
  cases node with
  | directory => exact absurd rfl h
  | _ => cases links <;> rfl

lemma resolve_long {name : String} (hcurrent : name ≠ ".") (hup : name ≠ "..")
    (long : maxName < name.utf8ByteSize) (links : Nat) (place : Place) (rest : List String) :
    resolve d followLast links place .directory (name :: rest) = .error .nameTooLong := by
  cases links <;> simp [resolve, hcurrent, hup, long, settle]

/-- A walk that looks a name up goes by what the directory holds under it. -/
lemma walk_of_isSought {name : String} (hname : IsSought name) (place : Place)
    (rest : List String) :
    walk d followLast place .directory (name :: rest) =
      match d.node? (place ++ [name]) with
      | none =>
        if rest.isEmpty && (d.node? place).isSome && !Place.running.isPrefixOf place then
          .free place name
        else .failed .noEntry
      | some (.link target) =>
        if rest.isEmpty && !followLast then .found (place ++ [name]) (.link target)
        else .goOn (linkStart place target) (walkNames target ++ rest)
      | some node => walk d followLast (place ++ [name]) node rest := by
  have hshort := Nat.not_lt.mpr hname.short
  rcases hentry : d.node? (place ++ [name]) with _ | node
  · simp only [walk, hname.ne_current, hname.ne_up, hshort, if_false, hentry]
  · cases node <;>
      simp only [walk, hname.ne_current, hname.ne_up, hshort, if_false, hentry, linkStart]

/-- A name that a directory does not hold is free at the end of a path and an error elsewhere. -/
lemma resolve_missing {name : String} {place : Place} (hname : IsSought name)
    (h : d.node? (place ++ [name]) = none) (links : Nat) (rest : List String) :
    resolve d followLast links place .directory (name :: rest) =
      if rest.isEmpty && (d.node? place).isSome && !Place.running.isPrefixOf place then
        .ok (.free place name)
      else .error .noEntry := by
  simp only [resolve, walk_of_isSought hname, h]
  split <;> cases links <;> rfl

/-- A node that is no link is walked to. -/
lemma resolve_node {name : String} {place : Place} {node : Node} (hname : IsSought name)
    (h : d.node? (place ++ [name]) = some node) (hlink : node.isLink = false) (links : Nat)
    (rest : List String) :
    resolve d followLast links place .directory (name :: rest) =
      resolve d followLast links (place ++ [name]) node rest := by
  cases node with
  | link target => simp [Node.isLink] at hlink
  | _ => simp only [resolve, walk_of_isSought hname, h]

/-- A link in last position that is not followed is a node. -/
lemma resolve_last_link {name : String} {place : Place} {target : Path} (hname : IsSought name)
    (h : d.node? (place ++ [name]) = some (.link target)) (links : Nat) :
    resolve d false links place .directory [name] =
      .ok (.taken (place ++ [name]) (.link target)) := by
  simp only [resolve, walk_of_isSought hname, h]
  cases links <;> rfl

/-- Any other link leads on, as long as links may be followed. -/
lemma resolve_link {name : String} {place : Place} {target : Path} (hname : IsSought name)
    (h : d.node? (place ++ [name]) = some (.link target)) {rest : List String}
    (hrest : rest = [] → followLast = true) (links : Nat) :
    resolve d followLast links place .directory (name :: rest) =
      match links with
      | 0 => .error .tooManyLinks
      | links + 1 =>
        resolve d followLast links (linkStart place target) .directory
          (walkNames target ++ rest) := by
  have hlast : (rest.isEmpty && !followLast) = false := by
    cases rest with
    | nil => simp [hrest rfl]
    | cons _ _ => rfl
  simp only [resolve, walk_of_isSought hname, h, hlast, Bool.false_eq_true, if_false]
  cases links <;> rfl

end Steps

/-! ### Arriving -/

/-- Names lead from a node to a node, and that takes a number of links. All links are followed. -/
inductive Arrives (d : Disk) : (links : Nat) → Place → Node → List String → Place → Node → Prop
  | here {place : Place} {node : Node} : Arrives d 0 place node [] place node
  | current {links : Nat} {place q : Place} {rest : List String} {m : Node}
      (further : Arrives d links place .directory rest q m) :
      Arrives d links place .directory ("." :: rest) q m
  | up {links : Nat} {place q : Place} {rest : List String} {m : Node}
      (further : Arrives d links place.dropLast .directory rest q m) :
      Arrives d links place .directory (".." :: rest) q m
  | node {links : Nat} {place q : Place} {name : String} {rest : List String} {node m : Node}
      (hname : IsSought name) (h : d.node? (place ++ [name]) = some node)
      (hlink : node.isLink = false) (further : Arrives d links (place ++ [name]) node rest q m) :
      Arrives d links place .directory (name :: rest) q m
  | link {links : Nat} {place q : Place} {name : String} {rest : List String} {target : Path}
      {m : Node} (hname : IsSought name) (h : d.node? (place ++ [name]) = some (.link target))
      (further : Arrives d links (linkStart place target) .directory (walkNames target ++ rest)
        q m) :
      Arrives d (links + 1) place .directory (name :: rest) q m

/-- Walks that arrive still do so when a disk holds more. -/
lemma Arrives.mono {d' : Disk} (hsub : ∀ place node, d.node? place = some node →
    d'.node? place = some node) {links : Nat} {place q : Place} {node m : Node}
    {names : List String} (h : Arrives d links place node names q m) :
    Arrives d' links place node names q m := by
  induction h with
  | here => exact .here
  | current _ ih => exact .current ih
  | up _ ih => exact .up ih
  | node hname h hlink _ ih => exact .node hname (hsub _ _ h) hlink ih
  | link hname h _ ih => exact .link hname (hsub _ _ h) ih

/-- A walk that arrives may be cut off a longer one. -/
lemma Arrives.resolve_append {used : Nat} {place q : Place} {node m : Node}
    {names : List String} (h : Arrives d used place node names q m) {rest : List String}
    (hrest : rest = [] → followLast = true) (links : Nat) :
    resolve d followLast (used + links) place node (names ++ rest) =
      resolve d followLast links q m rest := by
  induction h with
  | here => simp
  | current _ ih => simpa using ih
  | up _ ih => simpa using ih
  | node hname h hlink _ ih =>
    rw [List.cons_append, resolve_node hname h hlink]
    exact ih
  | @link used place q name names target m hname h _ ih =>
    have hmore : names ++ rest = [] → followLast = true :=
      fun hnil => hrest (List.append_eq_nil_iff.mp hnil).2
    rw [List.cons_append, resolve_link hname h hmore, Nat.add_right_comm]
    simpa using ih

/-- Whatever leads somewhere starts with a walk that arrives. All names but the last are part of
it, and so is the last one if it leads to a node with all links followed. -/
lemma exists_arrives {links : Nat} {place : Place} {node : Node} {names rest : List String}
    {spot : Spot} (hrest : rest = [] → followLast = true ∧ ∃ q m, spot = .taken q m)
    (h : resolve d followLast links place node (names ++ rest) = .ok spot) :
    ∃ used left q m, links = used + left ∧ Arrives d used place node names q m ∧
      resolve d followLast left q m rest = .ok spot := by
  -- The names left get fewer until a link is met; then there are fewer links left to follow.
  induction links using Nat.strongRecOn generalizing place node names with
  | ind links ih =>
  induction names generalizing place node with
  | nil => exact ⟨0, links, place, node, (Nat.zero_add links).symm, .here, h⟩
  | cons name names ihn =>
    rw [List.cons_append] at h
    by_cases hnode : node = .directory
    swap
    · rw [resolve_blocked hnode] at h
      cases h
    subst hnode
    by_cases hcurrent : name = "."
    · subst hcurrent
      rw [resolve_current] at h
      obtain ⟨used, left, q, m, hlinks, harr, hend⟩ := ihn h
      exact ⟨used, left, q, m, hlinks, .current harr, hend⟩
    by_cases hup : name = ".."
    · subst hup
      rw [resolve_up] at h
      obtain ⟨used, left, q, m, hlinks, harr, hend⟩ := ihn h
      exact ⟨used, left, q, m, hlinks, .up harr, hend⟩
    by_cases hlong : maxName < name.utf8ByteSize
    · rw [resolve_long hcurrent hup hlong] at h
      cases h
    have hname : IsSought name := ⟨hcurrent, hup, Nat.not_lt.mp hlong⟩
    rcases hentry : d.node? (place ++ [name]) with _ | found
    · rw [resolve_missing hname hentry] at h
      split at h
      · next hfree =>
        simp only [Bool.and_eq_true, List.isEmpty_iff, List.append_eq_nil_iff] at hfree
        obtain ⟨-, q, m, hspot⟩ := hrest hfree.1.1.2
        simp [hspot] at h
      · cases h
    by_cases hlink : found.isLink = true
    · cases found with
      | link target =>
        have hmore : names ++ rest = [] → followLast = true :=
          fun hnil => (hrest (List.append_eq_nil_iff.mp hnil).2).1
        rw [resolve_link hname hentry hmore] at h
        cases links with
        | zero => cases h
        | succ links =>
          simp only [← List.append_assoc] at h
          obtain ⟨used, left, q, m, hlinks, harr, hend⟩ := ih links (Nat.lt_succ_self _) h
          exact ⟨used + 1, left, q, m, by omega, .link hname hentry harr, hend⟩
      | _ => simp [Node.isLink] at hlink
    · rw [resolve_node hname hentry (by simpa using hlink)] at h
      obtain ⟨used, left, q, m, hlinks, harr, hend⟩ := ihn h
      exact ⟨used, left, q, m, hlinks, .node hname hentry (by simpa using hlink) harr, hend⟩

/-- A walk that arrives at most by way of the links that may be followed leads there. -/
lemma Arrives.resolve_eq {used links : Nat} {place q : Place} {node m : Node}
    {names : List String} (h : Arrives d used place node names q m) (hlinks : used ≤ links) :
    resolve d true links place node names = .ok (.taken q m) := by
  obtain ⟨left, rfl⟩ := Nat.exists_eq_add_of_le hlinks
  have happend := @Arrives.resolve_append d true _ _ _ _ _ _ h [] (fun _ => rfl) left
  rwa [List.append_nil, resolve_nil] at happend

/-- What is reached along names, all links followed, is arrived at. -/
lemma exists_arrives_of_taken {links : Nat} {place q : Place} {node m : Node}
    {names : List String} (h : resolve d true links place node names = .ok (.taken q m)) :
    ∃ used ≤ links, Arrives d used place node names q m := by
  rw [← List.append_nil names] at h
  obtain ⟨used, left, q', m', rfl, harr, hend⟩ :=
    exists_arrives (fun _ => ⟨rfl, q, m, rfl⟩) h
  rw [resolve_nil] at hend
  cases hend
  exact ⟨used, Nat.le_add_right _ _, harr⟩

/-- A walk that arrives in a directory arrives at what that directory holds. -/
lemma Arrives.append_node {used : Nat} {place q : Place} {node m : Node} {names : List String}
    (h : Arrives d used place node names q .directory) {name : String} (hname : IsSought name)
    (hnode : d.node? (q ++ [name]) = some m) (hlink : m.isLink = false) :
    Arrives d used place node (names ++ [name]) (q ++ [name]) m := by
  generalize hdirectory : Node.directory = final at h
  induction h with
  | here =>
    subst hdirectory
    exact .node hname hnode hlink .here
  | current _ ih => exact .current (ih hnode hdirectory)
  | up _ ih => exact .up (ih hnode hdirectory)
  | node hname h hlink _ ih => exact .node hname h hlink (ih hnode hdirectory)
  | link hname h _ ih =>
    have hmore := ih hnode hdirectory
    rw [List.append_assoc] at hmore
    exact .link hname h hmore

/-- What is reached by way of some links is reached if more of them may be followed. -/
lemma resolve_mono {links links' : Nat} {place : Place} {node : Node} {names : List String}
    {spot : Spot} (h : resolve d followLast links place node names = .ok spot)
    (hle : links ≤ links') : resolve d followLast links' place node names = .ok spot := by
  unfold resolve at h ⊢
  generalize walk d followLast place node names = stop at h
  induction links generalizing links' stop with
  | zero => cases stop <;> cases links' <;> first | exact h | cases h
  | succ links ih =>
    obtain ⟨more, rfl⟩ := Nat.exists_eq_add_of_le' (Nat.le_trans (Nat.succ_pos links) hle)
    cases stop with
    | goOn directory names => exact ih (Nat.le_of_succ_le_succ hle) _ h
    | _ => exact h

/-! ### The last name -/

/-- A name that a directory holds leads to its node, a link not followed. -/
lemma resolve_last {name : String} {place : Place} {node : Node} (hname : IsSought name)
    (h : d.node? (place ++ [name]) = some node) (links : Nat) :
    resolve d false links place .directory [name] = .ok (.taken (place ++ [name]) node) := by
  by_cases hlink : node.isLink = true
  · cases node with
    | link target => exact resolve_last_link hname h links
    | _ => simp [Node.isLink] at hlink
  · rw [resolve_node hname h (by simpa using hlink), resolve_nil]

/-- A name that leads somewhere is looked up in a directory. -/
lemma isSought_of_resolve {name : String} (hname : IsProper name) {links : Nat} {place : Place}
    {node : Node} {spot : Spot} (h : resolve d followLast links place node [name] = .ok spot) :
    node = .directory ∧ IsSought name := by
  by_cases hnode : node = .directory
  swap
  · rw [resolve_blocked hnode] at h
    cases h
  subst hnode
  by_cases hlong : maxName < name.utf8ByteSize
  · rw [resolve_long hname.ne_current hname.ne_up hlong] at h
    cases h
  exact ⟨rfl, hname.ne_current, hname.ne_up, Nat.not_lt.mp hlong⟩

/-- A name that leads to a node, all links followed, is held by its directory. -/
lemma exists_node_of_resolve {name : String} (hname : IsProper name) {links : Nat} {place q : Place}
    {node m : Node} (h : resolve d followLast links place node [name] = .ok (.taken q m)) :
    ∃ found, d.node? (place ++ [name]) = some found := by
  obtain ⟨rfl, hsought⟩ := isSought_of_resolve hname h
  rcases hentry : d.node? (place ++ [name]) with _ | found
  · rw [resolve_missing hsought hentry] at h
    split at h <;> cases h
  · exact ⟨found, rfl⟩

/-- What is free is a name that its directory does not hold. -/
lemma resolve_last_eq_free {name : String} (hname : IsProper name) {links : Nat}
    {place q : Place} {node : Node} {n : String}
    (h : resolve d false links place node [name] = .ok (.free q n)) :
    q = place ∧ n = name ∧ d.node? (place ++ [name]) = none ∧ (d.node? place).isSome ∧
      Place.running.isPrefixOf place = false := by
  obtain ⟨rfl, hsought⟩ := isSought_of_resolve hname h
  rcases hentry : d.node? (place ++ [name]) with _ | found
  · rw [resolve_missing hsought hentry] at h
    split at h
    · next hfree =>
      simp only [Bool.and_eq_true, List.isEmpty_nil, true_and, Bool.not_eq_true'] at hfree
      cases h
      exact ⟨rfl, rfl, rfl, hfree.1, hfree.2⟩
    · cases h
  · rw [resolve_last hsought hentry] at h
    cases h

/-! ### Paths -/

/-- Whether a path can be followed at all: its text has no zero in it, is not empty and is short
enough. -/
structure IsSound (p : Path) : Prop where
  no_nul : p.text.toList.contains (Char.ofNat 0) = false
  ne_empty : p.text ≠ ""
  short : p.text.utf8ByteSize ≤ maxPath

lemma locate_of_sound {p : Path} (hp : IsSound p) (directory : Place) :
    d.locate directory followLast p =
      match resolve d followLast maxLinks (startOf directory p) .directory (walkNames p) with
      | .ok spot => .ok spot
      | .error error => .error (.system error) := by
  have hshort := hp.short
  simp only [locate, hp.no_nul, hp.ne_empty, if_false, Bool.false_eq_true,
    Nat.not_lt.mpr hshort]
  rfl

lemma isSound_of_locate {p : Path} {directory : Place} {spot : Spot}
    (h : d.locate directory followLast p = .ok spot) : IsSound p := by
  unfold locate at h
  split at h
  · cases h
  split at h
  · cases h
  split at h
  · cases h
  next hnul hempty hlong =>
  exact ⟨by simpa using hnul, hempty, Nat.not_lt.mp hlong⟩

/-- A name can be followed if a child of that name can. -/
lemma IsSound.of_child {p : Path} {name : String} (hname : IsProper name)
    (h : IsSound (p.child name)) : IsSound ⟨name⟩ := by
  obtain ⟨front, hfront⟩ := Path.exists_text_child p hname.slashless
  obtain ⟨no_nul, -, short⟩ := h
  rw [hfront] at no_nul short
  refine ⟨?_, hname.ne_empty, ?_⟩
  · simp at no_nul ⊢
    exact no_nul.2
  · rw [String.utf8ByteSize_append] at short
    exact Nat.le_trans (Nat.le_add_left _ _) short

/-- A path can be followed if something seen from it can. -/
lemma IsSound.of_join {p q : Path} (h : q.isAbsolute = false) (hne : p.text ≠ "")
    (hp : IsSound (p.join q)) : IsSound p := by
  obtain ⟨rest, hrest⟩ : ∃ rest, (p.join q).text = p.text ++ rest := by
    rw [Path.text_join p h]
    split
    · exact ⟨_, rfl⟩
    · exact ⟨_, String.append_assoc⟩
  obtain ⟨no_nul, -, short⟩ := hp
  rw [hrest] at no_nul short
  rw [String.utf8ByteSize_append] at short
  refine ⟨?_, hne, Nat.le_trans (Nat.le_add_right _ _) short⟩
  simp only [String.toList_append, List.contains_append, Bool.or_eq_false_iff] at no_nul
  exact no_nul.1

/-- A path leads somewhere exactly if it can be followed and its names lead there. -/
lemma locate_eq_ok_iff {p : Path} {directory : Place} {spot : Spot} :
    d.locate directory followLast p = .ok spot ↔
      IsSound p ∧
        resolve d followLast maxLinks (startOf directory p) .directory (walkNames p) = .ok spot := by
  constructor
  · intro h
    have hp := isSound_of_locate h
    rw [locate_of_sound hp] at h
    refine ⟨hp, ?_⟩
    split at h
    · next heq => rw [heq]; exact congrArg Except.ok (Except.ok.inj h)
    · cases h
  · rintro ⟨hp, h⟩
    rw [locate_of_sound hp, h]

/-- What a path leads to its names arrive at. -/
lemma exists_arrives_names {p : Path} {cwd q : Place} {m : Node}
    (h : d.locate cwd true p = .ok (.taken q m)) :
    ∃ used left, maxLinks = used + left ∧
      Arrives d used (startOf cwd p) .directory p.names q m := by
  obtain ⟨-, hresolve⟩ := locate_eq_ok_iff.mp h
  obtain ⟨rest, hrest, hwalk⟩ := p.exists_walkNames
  rw [hwalk] at hresolve
  obtain ⟨used, left, place, node, hlinks, harr, hend⟩ :=
    exists_arrives (fun _ => ⟨rfl, _, _, rfl⟩) hresolve
  refine ⟨used, left, hlinks, ?_⟩
  rcases hrest with rfl | rfl
  · rw [resolve_nil] at hend
    cases hend
    exact harr
  · by_cases hnode : node = .directory
    · subst hnode
      rw [resolve_current, resolve_nil] at hend
      cases hend
      exact harr
    · rw [resolve_blocked hnode] at hend
      cases hend

/-- A path whose names arrive at a directory leads there. -/
lemma locate_of_arrives {p : Path} (hp : IsSound p) {cwd q : Place} {used left : Nat}
    (hlinks : maxLinks = used + left)
    (h : Arrives d used (startOf cwd p) .directory p.names q .directory) :
    d.locate cwd true p = .ok (.taken q .directory) := by
  refine locate_eq_ok_iff.mpr ⟨hp, ?_⟩
  obtain ⟨rest, hrest, hwalk⟩ := p.exists_walkNames
  rw [hwalk, hlinks, h.resolve_append fun _ => rfl]
  rcases hrest with rfl | rfl
  · rw [resolve_nil]
  · rw [resolve_current, resolve_nil]

/-- An absolute path leads to the same from every directory. -/
lemma locate_of_absolute {p : Path} (habs : p.isAbsolute = true) (a b : Place) :
    d.locate a followLast p = d.locate b followLast p := by
  simp [locate, startOf, habs]

lemma linkOrNode?_of_absolute {p : Path} (habs : p.isAbsolute = true) (a b : Place) :
    d.linkOrNode? a p = d.linkOrNode? b p := by
  unfold linkOrNode? locateNode
  rw [locate_of_absolute habs a b]

lemma isDirectory_of_absolute {p : Path} (habs : p.isAbsolute = true) (a b : Place) :
    d.isDirectory a p = d.isDirectory b p := by
  unfold isDirectory target? locateNode
  rw [locate_of_absolute habs a b]

lemma locateNode_eq_ok_iff {cwd q : Place} {p : Path} {node : Node} :
    d.locateNode cwd followLast p = .ok (q, node) ↔
      d.locate cwd followLast p = .ok (.taken q node) := by
  unfold locateNode
  constructor
  · intro h
    split at h
    · next hspot =>
      cases h
      exact hspot
    · cases h
    · cases h
  · intro h
    rw [h]

lemma isFile_eq_true_iff {cwd : Place} {p : Path} :
    d.isFile cwd p = true ↔ ∃ q content, d.locate cwd true p = .ok (.taken q (.file content)) := by
  unfold isFile target?
  constructor
  · intro h
    cases hnode : d.locateNode cwd true p with
    | error fault => simp [hnode] at h
    | ok found =>
      obtain ⟨q, node⟩ := found
      cases node with
      | file content => exact ⟨q, content, locateNode_eq_ok_iff.mp hnode⟩
      | _ => simp [hnode] at h
  · rintro ⟨q, content, h⟩
    rw [locateNode_eq_ok_iff.mpr h]

/-! ### Children of a path -/

/-- A child that leads somewhere does so from what its directory leads to. -/
lemma exists_arrives_child {p : Path} {name : String} (hname : IsProper name) {cwd : Place}
    {spot : Spot} (h : d.locate cwd followLast (p.child name) = .ok spot) :
    ∃ used left q, maxLinks = used + left ∧ IsSought name ∧
      Arrives d used (startOf cwd (p.child name)) .directory p.names q .directory ∧
      resolve d followLast left q .directory [name] = .ok spot := by
  obtain ⟨-, h⟩ := locate_eq_ok_iff.mp h
  rw [Path.walkNames_child p hname.slashless hname.ne_empty] at h
  obtain ⟨used, left, q, m, hlinks, harr, hend⟩ := exists_arrives (by simp) h
  obtain ⟨rfl, hsought⟩ := isSought_of_resolve hname hend
  exact ⟨used, left, q, hlinks, hsought, harr, hend⟩

/-- A child whose directory is arrived at leads to what its name leads to from there. -/
lemma locate_child {p : Path} {name : String} (hname : IsProper name) {cwd q : Place}
    {used left : Nat} (hlinks : maxLinks = used + left) (hp : IsSound (p.child name))
    (harr : Arrives d used (startOf cwd (p.child name)) .directory p.names q .directory) :
    d.locate cwd followLast (p.child name) =
      match resolve d followLast left q .directory [name] with
      | .ok spot => .ok spot
      | .error error => .error (.system error) := by
  rw [locate_of_sound hp, Path.walkNames_child p hname.slashless hname.ne_empty, hlinks,
    harr.resolve_append (by simp)]

/-- What a child leads to, a last link not followed, is at a place that ends with its name. -/
lemma locate_child_taken {p : Path} {name : String} (hname : IsProper name) {cwd q : Place}
    {m : Node} (h : d.locate cwd false (p.child name) = .ok (.taken q m)) :
    (∃ above, q = above ++ [name]) ∧ d.node? q = some m := by
  obtain ⟨used, left, above, -, hsought, -, hend⟩ := exists_arrives_child hname h
  obtain ⟨found, hfound⟩ := exists_node_of_resolve hname hend
  rw [resolve_last hsought hfound] at hend
  cases hend
  exact ⟨⟨above, rfl⟩, hfound⟩

/-- A child that leads to a node, all links followed, leads to one if the last is not. -/
lemma exists_locate_child_of_target {p : Path} {name : String} (hname : IsProper name)
    {cwd q : Place} {m : Node} (h : d.locate cwd true (p.child name) = .ok (.taken q m)) :
    ∃ q m, d.locate cwd false (p.child name) = .ok (.taken q m) := by
  obtain ⟨used, left, above, hlinks, hsought, harr, hend⟩ := exists_arrives_child hname h
  obtain ⟨found, hfound⟩ := exists_node_of_resolve hname hend
  refine ⟨above ++ [name], found, ?_⟩
  rw [locate_child hname hlinks (isSound_of_locate h) harr, resolve_last hsought hfound]

/-- A child that its directory does not hold can only lead to its own free name. -/
lemma locate_child_missing {p : Path} {name : String} (hname : IsProper name) {cwd q : Place}
    {used left : Nat} (hlinks : maxLinks = used + left)
    (harr : Arrives d used (startOf cwd (p.child name)) .directory p.names q .directory)
    (hnone : d.node? (q ++ [name]) = none) {spot : Spot}
    (h : d.locate cwd followLast (p.child name) = .ok spot) : spot = .free q name := by
  rw [locate_child hname hlinks (isSound_of_locate h) harr] at h
  split at h
  · next heq =>
    cases h
    obtain ⟨-, hsought⟩ := isSought_of_resolve hname heq
    rw [resolve_missing hsought hnone] at heq
    split at heq
    · exact (Except.ok.inj heq).symm
    · cases heq
  · cases h

/-- A child that leads to a node that is no link leads there if links are followed, too. -/
lemma locate_child_of_not_link {p : Path} {name : String} (hname : IsProper name)
    {cwd q : Place} {m : Node} (h : d.locate cwd false (p.child name) = .ok (.taken q m))
    (hlink : m.isLink = false) : d.locate cwd true (p.child name) = .ok (.taken q m) := by
  obtain ⟨used, left, above, hlinks, hsought, harr, hend⟩ := exists_arrives_child hname h
  obtain ⟨found, hfound⟩ := exists_node_of_resolve hname hend
  rw [resolve_last hsought hfound] at hend
  cases hend
  rw [locate_child hname hlinks (isSound_of_locate h) harr, resolve_node hsought hfound hlink,
    resolve_nil]

/-- A child that leads to a node leads to the same one on a disk that holds more. -/
lemma locate_child_mono {d' : Disk} (hsub : ∀ place node, d.node? place = some node →
    d'.node? place = some node) {p : Path} {name : String} (hname : IsProper name) {cwd q : Place}
    {m : Node} (h : d.locate cwd false (p.child name) = .ok (.taken q m)) :
    d'.locate cwd false (p.child name) = .ok (.taken q m) := by
  obtain ⟨used, left, above, hlinks, hsought, harr, hend⟩ := exists_arrives_child hname h
  obtain ⟨found, hfound⟩ := exists_node_of_resolve hname hend
  rw [resolve_last hsought hfound] at hend
  cases hend
  rw [locate_child hname hlinks (isSound_of_locate h) (harr.mono hsub),
    resolve_last hsought (hsub _ _ hfound)]

/-- A child leads to what its name leads to from the directory that its path leads to. -/
lemma locate_name_of_child {p : Path} {name : String} (hname : IsProper name) {cwd q : Place}
    {m : Node} (h : d.locate cwd true p = .ok (.taken q m)) {spot : Spot}
    (hchild : d.locate cwd followLast (p.child name) = .ok spot) :
    d.locate q followLast ⟨name⟩ = .ok spot := by
  obtain ⟨used, left, place, hlinks, -, harr, hend⟩ := exists_arrives_child hname hchild
  obtain ⟨hp, hresolve⟩ := locate_eq_ok_iff.mp h
  obtain rfl : place = q := by
    obtain ⟨rest, hrest, hwalk⟩ := p.exists_walkNames
    have hstart : startOf cwd (p.child name) = startOf cwd p := by
      simp only [startOf, Path.isAbsolute_child hname.slashless hp.ne_empty]
    rw [hstart] at harr
    rw [hwalk, hlinks, harr.resolve_append fun _ => rfl] at hresolve
    rcases hrest with rfl | rfl
    · rw [resolve_nil] at hresolve
      cases hresolve
      rfl
    · rw [resolve_current, resolve_nil] at hresolve
      cases hresolve
      rfl
  refine locate_eq_ok_iff.mpr ⟨(isSound_of_locate hchild).of_child hname, ?_⟩
  rw [Path.walkNames_of_isProper hname, startOf, Path.not_isAbsolute_of_slashless hname.slashless]
  exact resolve_mono hend (by omega)

/-- The name of a directory leads to it. -/
lemma taken_of_locate_name {name : String} (hname : IsProper name) {place : Place} {node : Node}
    (hnode : d.node? (place ++ [name]) = some node) (hlink : node.isLink = false) {spot : Spot}
    (h : d.locate place followLast ⟨name⟩ = .ok spot) :
    spot = .taken (place ++ [name]) node := by
  obtain ⟨-, hresolve⟩ := locate_eq_ok_iff.mp h
  rw [Path.walkNames_of_isProper hname, startOf,
    Path.not_isAbsolute_of_slashless hname.slashless] at hresolve
  obtain ⟨-, hsought⟩ := isSought_of_resolve hname hresolve
  rw [if_neg Bool.false_ne_true, resolve_node hsought hnode hlink, resolve_nil] at hresolve
  exact (Except.ok.inj hresolve).symm

end SnippetForge.Disk
