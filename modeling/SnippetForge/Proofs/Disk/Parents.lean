import SnippetForge.Proofs.Disk.Components
import SnippetForge.Proofs.Disk.Walks

/-!
# Parents of paths

The parent of a path is made from its text. The last component is taken off, together with the slashes
and dots on either side of it. Seen from the other end, a path that ends in a name is spelled by its
parent, by that name, and by dots, which lead nowhere else. So a path can only be followed by way of
its parent, and where the path leads to something its parent leads to the directory that holds it.

There is one exception. The parent of a bare name is the empty path. That has the right components,
namely none, but it leads nowhere.
-/

namespace SnippetForge

namespace Path

/-! ### Segments and texts -/

lemma slash_notMem_of_mem_splitOn {cs piece : List Char} (h : piece ∈ cs.splitOn '/') :
    '/' ∉ piece := by
  induction cs generalizing piece with
  | nil =>
    rw [List.splitOn_nil, List.mem_singleton] at h
    simp [h]
  | cons c rest ih =>
    obtain ⟨first, others, hrest⟩ := List.exists_cons_of_ne_nil (List.splitOn_ne_nil '/' rest)
    rw [List.splitOn_cons_eq_if_modifyHead, hrest] at h
    rw [hrest] at ih
    split at h
    · rcases List.mem_cons.mp h with rfl | h
      · simp
      · exact ih h
    · next hc =>
      rcases List.mem_cons.mp h with rfl | h
      · have hfirst := ih (List.mem_cons_self ..)
        rw [List.mem_cons, not_or]
        exact ⟨fun heq => hc (beq_iff_eq.mpr heq.symm), hfirst⟩
      · exact ih (List.mem_cons_of_mem _ h)

/-- Nothing between two slashes has a slash in it. -/
lemma slashless_of_mem_segments {p : Path} {s : String} (h : s ∈ p.segments) : '/' ∉ s.toList := by
  obtain ⟨cs, hcs, rfl⟩ := List.mem_map.mp h
  rw [String.toList_ofList]
  exact slash_notMem_of_mem_splitOn hcs

lemma ofSegments_segments (p : Path) : ofSegments p.segments = p.text := by
  rw [← String.toList_inj, ofSegments, String.toList_intercalate, segments, List.map_map]
  have hmap : (String.toList ∘ String.ofList) = id := by
    funext cs
    exact String.toList_ofList
  rw [hmap, List.map_id]
  exact List.intercalate_splitOn '/'

/-- The segments of a text are those it has been put together from. -/
lemma segments_ofSegments {segments : List String} (slashless : ∀ s ∈ segments, '/' ∉ s.toList)
    (hne : segments ≠ []) : (Path.mk (ofSegments segments)).segments = segments := by
  induction segments with
  | nil => exact absurd rfl hne
  | cons first rest ih =>
    have hfirst := slashless first (List.mem_cons_self ..)
    by_cases hrest : rest = []
    · subst hrest
      rw [ofSegments, String.intercalate_singleton, segments_of_slashless hfirst]
    · rw [ofSegments, String.intercalate_cons_of_ne_nil hrest, segments_slash,
        segments_of_slashless hfirst]
      exact congrArg _ (ih (fun s hs => slashless s (List.mem_cons_of_mem _ hs)) hrest)

lemma ofSegments_root {segments : List String} (hne : segments ≠ []) :
    ofSegments ("" :: segments) = "/" ++ ofSegments segments := by
  rw [ofSegments, String.intercalate_cons_of_ne_nil hne, String.empty_append, ofSegments]

/-- A text that is put together starts with that of the first segments. -/
lemma exists_ofSegments_append (a b : List String) :
    ∃ rest, ofSegments (a ++ b) = ofSegments a ++ rest := by
  by_cases ha : a = []
  · subst ha
    exact ⟨ofSegments b, by simp [ofSegments]⟩
  by_cases hb : b = []
  · subst hb
    exact ⟨"", by simp⟩
  · refine ⟨"/" ++ ofSegments b, ?_⟩
    rw [ofSegments, String.intercalate_append_of_ne_nil ha hb, String.append_assoc]
    rfl

lemma segments_root (text : String) :
    (Path.mk ("/" ++ text)).segments = "" :: (Path.mk text).segments := by
  have hslash := segments_slash "" text
  rwa [String.empty_append] at hslash

/-- An absolute path starts with an empty segment. -/
lemma exists_segments_of_absolute {p : Path} (h : p.isAbsolute = true) :
    ∃ rest, p.segments = "" :: rest := by
  obtain ⟨cs, hcs⟩ := (isAbsolute_iff p).mp h
  have htext : p.text = "/" ++ String.ofList cs := by
    rw [← String.toList_inj, ← hcs]
    simp
  exact ⟨_, (congrArg (fun text => (Path.mk text).segments) htext).trans (segments_root _)⟩

/-- What a path starts with is absolute if the path is, unless it is empty. -/
lemma isAbsolute_of_start {p q : Path} (h : ∃ rest, p.text = q.text ++ rest) (hne : q.text ≠ "") :
    q.isAbsolute = p.isAbsolute := by
  obtain ⟨rest, htext⟩ := h
  obtain ⟨c, cs, hcs⟩ := List.exists_cons_of_ne_nil (l := q.text.toList) (by simpa using hne)
  rw [isAbsolute_eq, isAbsolute_eq, htext, String.toList_append, hcs]
  rfl

lemma not_isAbsolute_of_start {p q : Path} (h : ∃ rest, p.text = q.text ++ rest)
    (hp : p.isAbsolute = false) : q.isAbsolute = false := by
  by_cases hne : q.text = ""
  · simp [isAbsolute, hne]
  · rw [isAbsolute_of_start h hne, hp]

/-- The names of a text that is put together are the segments that are not empty. -/
lemma names_ofSegments {segments : List String} (slashless : ∀ s ∈ segments, '/' ∉ s.toList) :
    (Path.mk (ofSegments segments)).names = segments.filter (· != "") := by
  by_cases hne : segments = []
  · subst hne
    rfl
  · rw [names, segments_ofSegments slashless hne]

lemma componentsOf_ofSegments {segments : List String}
    (slashless : ∀ s ∈ segments, '/' ∉ s.toList) :
    componentsOf (Path.mk (ofSegments segments)).segments = componentsOf segments := by
  by_cases hne : segments = []
  · subst hne
    rfl
  · rw [segments_ofSegments slashless hne]

/-! ### Without what is trivial at the end -/

/-- Segments without the trivial ones at their end. -/
def trimmed (segments : List String) : List String :=
  (dropTrivial segments.reverse).reverse

lemma exists_trimmed (segments : List String) :
    ∃ gap, (∀ s ∈ gap, isTrivial s = true) ∧ segments = trimmed segments ++ gap := by
  refine ⟨(segments.reverse.takeWhile isTrivial).reverse, fun s hs => ?_, ?_⟩
  · exact List.mem_takeWhile_imp (List.mem_reverse.mp hs)
  · rw [trimmed, dropTrivial, ← List.reverse_append, List.takeWhile_append_dropWhile,
      List.reverse_reverse]

/-- Nothing is dropped after a segment that is not trivial. -/
lemma trimmed_concat (front : List String) {s : String} (hs : isTrivial s = false) :
    trimmed (front ++ [s]) = front ++ [s] := by
  simp [trimmed, dropTrivial, hs]

lemma trimmed_cons (s : String) (segments : List String) :
    trimmed (s :: segments) = s :: trimmed segments ∨
      trimmed (s :: segments) = [] ∧ trimmed segments = [] := by
  unfold trimmed dropTrivial
  rw [List.reverse_cons, List.dropWhile_append]
  by_cases hrest : (List.dropWhile isTrivial segments.reverse).isEmpty = true
  · rw [if_pos hrest, List.isEmpty_iff.mp hrest]
    cases hs : isTrivial s <;> simp [hs]
  · rw [if_neg hrest]
    exact .inl (by simp)

lemma componentsOf_of_trivial {gap : List String} (h : ∀ s ∈ gap, isTrivial s = true) :
    componentsOf gap = [] := by
  rw [componentsOf, List.filter_eq_nil_iff.mpr fun s hs => by simp [h s hs], List.map_nil]

lemma componentsOf_trimmed (segments : List String) :
    componentsOf (trimmed segments) = componentsOf segments := by
  obtain ⟨gap, hgap, hsegments⟩ := exists_trimmed segments
  conv_rhs => rw [hsegments, componentsOf_append, componentsOf_of_trivial hgap, List.append_nil]

/-! ### Segments that end in a name -/

/-- Segments end in a name, and only trivial ones come after it. -/
structure EndIn (segments front : List String) (name : String) : Prop where
  spelled : ∃ trail, (∀ s ∈ trail, isTrivial s = true) ∧ segments = front ++ name :: trail
  counts : isTrivial name = false
  ne_up : name ≠ ".."

/-- Segments whose last component is a name end in it. -/
lemma exists_endIn {segments : List String} {name : String}
    (h : (componentsOf segments).getLast? = some (.name name)) :
    ∃ front, EndIn segments front name := by
  rw [componentsOf, List.getLast?_map, List.getLast?_filter, Option.map_eq_some_iff] at h
  obtain ⟨s, hfind, hs⟩ := h
  obtain ⟨hs', after, before, hsegments, htrivial⟩ := List.find?_eq_some_iff_append.mp hfind
  unfold componentOf at hs
  split at hs
  · cases hs
  · next hup =>
    cases hs
    refine ⟨before.reverse, ⟨after.reverse, fun s hs => ?_, ?_⟩, by simpa using hs', hup⟩
    · simpa using htrivial s (List.mem_reverse.mp hs)
    · rw [← List.reverse_reverse segments, hsegments]
      simp

namespace EndIn

variable {segments front : List String} {name : String}

lemma cons (h : EndIn segments front name) (first : String) :
    EndIn (first :: segments) (first :: front) name := by
  obtain ⟨⟨trail, htrail, rfl⟩, counts, ne_up⟩ := h
  exact ⟨⟨trail, htrail, rfl⟩, counts, ne_up⟩

lemma mem (h : EndIn segments front name) : name ∈ segments := by
  obtain ⟨trail, -, rfl⟩ := h.spelled
  simp

lemma mem_of_trimmed (h : EndIn segments front name) {s : String} (hs : s ∈ trimmed front) :
    s ∈ segments := by
  obtain ⟨gap, -, hfront⟩ := exists_trimmed front
  obtain ⟨trail, -, rfl⟩ := h.spelled
  rw [hfront]
  simp [hs]

lemma dropTrivial_reverse (h : EndIn segments front name) :
    dropTrivial segments.reverse = name :: front.reverse := by
  obtain ⟨⟨trail, htrail, rfl⟩, counts, -⟩ := h
  rw [List.reverse_append, List.reverse_cons, List.append_assoc, dropTrivial,
    List.dropWhile_append_of_pos fun s hs => htrail s (List.mem_reverse.mp hs)]
  simp [counts]

lemma componentsOf_eq (h : EndIn segments front name) :
    componentsOf segments = componentsOf (trimmed front) ++ [.name name] := by
  obtain ⟨⟨trail, htrail, rfl⟩, counts, ne_up⟩ := h
  have hlast : componentsOf (name :: trail) = [.name name] := by
    rw [← List.singleton_append, componentsOf_append, componentsOf_of_trivial htrail]
    simp [componentsOf, counts, componentOf, ne_up]
  rw [componentsOf_append, componentsOf_trimmed, hlast]

/-- What is spelled around the name besides is dots. -/
lemma exists_filter_eq (h : EndIn segments front name) :
    ∃ gap trail, (∀ s ∈ gap ++ trail, s = ".") ∧
      segments.filter (· != "") = (trimmed front).filter (· != "") ++ (gap ++ name :: trail) := by
  obtain ⟨⟨trail, htrail, rfl⟩, counts, -⟩ := h
  obtain ⟨gap, hgap, hfront⟩ := exists_trimmed front
  refine ⟨gap.filter (· != ""), trail.filter (· != ""), fun s hs => ?_, ?_⟩
  · rw [← List.filter_append, List.mem_filter, List.mem_append] at hs
    obtain ⟨hmem, hne⟩ := hs
    have htrivial := hmem.elim (hgap s) (htrail s)
    simp only [isTrivial, Bool.or_eq_true, beq_iff_eq] at htrivial
    exact htrivial.resolve_left (by simpa using hne)
  · have hne : name ≠ "" := by
      rintro rfl
      cases counts
    conv_lhs => rw [hfront]
    rw [List.filter_append, List.filter_append, List.filter_cons_of_pos (by simpa using hne),
      List.append_assoc]

/-- The text starts with that of the segments before the name. -/
lemma exists_ofSegments (h : EndIn segments front name) :
    ∃ rest, ofSegments segments = ofSegments (trimmed front) ++ rest := by
  obtain ⟨trail, -, rfl⟩ := h.spelled
  obtain ⟨gap, -, hfront⟩ := exists_trimmed front
  obtain ⟨rest, hrest⟩ := exists_ofSegments_append (trimmed front) (gap ++ name :: trail)
  rw [← List.append_assoc, ← hfront] at hrest
  exact ⟨rest, hrest⟩

end EndIn

/-! ### The parent of a path that ends in a name -/

section Parent

variable {p : Path} {segments front : List String} {name : String}

lemma parent?_of_absolute (habs : p.isAbsolute = true) (hsegments : p.segments = "" :: segments)
    (h : EndIn segments front name) : p.parent? = some ⟨"/" ++ ofSegments (trimmed front)⟩ := by
  rw [parent?, if_pos habs, hsegments, (h.cons "").dropTrivial_reverse]
  have hcases := trimmed_cons "" front
  unfold trimmed at hcases ⊢
  dsimp only
  rcases hcases with hcons | ⟨hcons, hnil⟩
  · rw [hcons]
    rfl
  · rw [hcons, hnil]

lemma parent?_of_current (habs : p.isAbsolute = false) (hsegments : p.segments = "." :: segments)
    (h : EndIn segments front name) : p.parent? = some ⟨ofSegments ("." :: trimmed front)⟩ := by
  rw [parent?, if_neg (by simp [habs]), hsegments, relativeParent?, h.dropTrivial_reverse]
  rfl

lemma parent?_of_relative (habs : p.isAbsolute = false) (hfirst : p.segments.head? ≠ some ".")
    (h : EndIn p.segments front name) : p.parent? = some ⟨ofSegments (trimmed front)⟩ := by
  rw [parent?, if_neg (by simp [habs]), relativeParent?, h.dropTrivial_reverse]
  · rfl
  · rintro rest hrest
    rw [hrest] at hfirst
    exact hfirst rfl

/-- A path is spelled by a directory, by a name in it, and by dots. -/
structure IsEntryOf (p : Path) (name : String) (directory : Path) : Prop where
  proper : IsProper name
  components : p.components = directory.components ++ [.name name]
  names : ∃ gap trail, (∀ s ∈ gap ++ trail, s = ".") ∧
    p.names = directory.names ++ (gap ++ name :: trail)
  start : ∃ rest, p.text = directory.text ++ rest

lemma isProper_of_endIn (h : EndIn segments front name) (hsub : ∀ s ∈ segments, s ∈ p.segments) :
    IsProper name := by
  have hcounts := h.counts
  simp only [isTrivial, Bool.or_eq_false_iff, beq_eq_false_iff_ne] at hcounts
  exact ⟨hcounts.1, slashless_of_mem_segments (hsub name h.mem), hcounts.2, h.ne_up⟩

lemma slashless_trimmed (h : EndIn segments front name) (hsub : ∀ s ∈ segments, s ∈ p.segments) :
    ∀ s ∈ trimmed front, '/' ∉ s.toList :=
  fun s hs => slashless_of_mem_segments (hsub s (h.mem_of_trimmed hs))

lemma isEntryOf_absolute (habs : p.isAbsolute = true) (hsegments : p.segments = "" :: segments)
    (h : EndIn segments front name) : p.IsEntryOf name ⟨"/" ++ ofSegments (trimmed front)⟩ := by
  have hsub : ∀ s ∈ segments, s ∈ p.segments := by simp +contextual [hsegments]
  have slashless := slashless_trimmed h hsub
  refine ⟨isProper_of_endIn h hsub, ?_, ?_, ?_⟩
  · have hroot : (Path.mk ("/" ++ ofSegments (trimmed front))).isAbsolute = true :=
      (isAbsolute_iff _).mpr (by simp)
    rw [components_of_absolute habs, components_of_absolute hroot, hsegments, segments_root]
    change Component.root :: componentsOf segments =
      .root :: componentsOf (Path.mk (ofSegments (trimmed front))).segments ++ [.name name]
    rw [h.componentsOf_eq, componentsOf_ofSegments slashless]
    rfl
  · obtain ⟨gap, trail, hdots, hfilter⟩ := h.exists_filter_eq
    refine ⟨gap, trail, hdots, ?_⟩
    rw [names, names, hsegments, segments_root]
    change segments.filter (· != "") = (Path.mk _).names ++ _
    rw [hfilter, names_ofSegments slashless]
  · obtain ⟨rest, hrest⟩ := h.exists_ofSegments
    refine ⟨rest, ?_⟩
    rw [← ofSegments_segments p, hsegments, ofSegments_root (List.ne_nil_of_mem h.mem), hrest,
      String.append_assoc]

lemma isEntryOf_current (habs : p.isAbsolute = false) (hsegments : p.segments = "." :: segments)
    (h : EndIn segments front name) : p.IsEntryOf name ⟨ofSegments ("." :: trimmed front)⟩ := by
  have hsub : ∀ s ∈ segments, s ∈ p.segments := by simp +contextual [hsegments]
  have slashless : ∀ s ∈ "." :: trimmed front, '/' ∉ s.toList :=
    List.forall_mem_cons.mpr ⟨by decide, slashless_trimmed h hsub⟩
  have start : ∃ rest, p.text = ofSegments ("." :: trimmed front) ++ rest := by
    obtain ⟨gap, -, hfront⟩ := exists_trimmed front
    obtain ⟨trail, -, hspelled⟩ := h.spelled
    obtain ⟨rest, hrest⟩ :=
      exists_ofSegments_append ("." :: trimmed front) (gap ++ name :: trail)
    refine ⟨rest, ?_⟩
    rw [← ofSegments_segments p, hsegments, hspelled, ← hrest, List.cons_append,
      ← List.append_assoc, ← hfront]
  refine ⟨isProper_of_endIn h hsub, ?_, ?_, start⟩
  · have habs' : (Path.mk (ofSegments ("." :: trimmed front))).isAbsolute = false :=
      not_isAbsolute_of_start start habs
    rw [components_of_current habs hsegments, components_of_current habs'
      (segments_ofSegments slashless (List.cons_ne_nil _ _)), h.componentsOf_eq]
    rfl
  · obtain ⟨gap, trail, hdots, hfilter⟩ := h.exists_filter_eq
    refine ⟨gap, trail, hdots, ?_⟩
    rw [names, hsegments, names_ofSegments slashless, List.filter_cons_of_pos (by decide),
      List.filter_cons_of_pos (by decide), hfilter]
    rfl

lemma isEntryOf_relative (habs : p.isAbsolute = false) (hfirst : p.segments.head? ≠ some ".")
    (h : EndIn p.segments front name) : p.IsEntryOf name ⟨ofSegments (trimmed front)⟩ := by
  have slashless := slashless_trimmed h fun _ hs => hs
  have start : ∃ rest, p.text = ofSegments (trimmed front) ++ rest := by
    rw [← ofSegments_segments p]
    exact h.exists_ofSegments
  refine ⟨isProper_of_endIn h fun _ hs => hs, ?_, ?_, start⟩
  · have habs' : (Path.mk (ofSegments (trimmed front))).isAbsolute = false :=
      not_isAbsolute_of_start start habs
    have hfirst' : (Path.mk (ofSegments (trimmed front))).segments.head? ≠ some "." := by
      by_cases hnil : trimmed front = []
      · rw [hnil]
        decide
      · obtain ⟨gap, -, hfront⟩ := exists_trimmed front
        obtain ⟨trail, -, hspelled⟩ := h.spelled
        rw [segments_ofSegments slashless hnil]
        rwa [hspelled, hfront, List.append_assoc, List.head?_append_of_ne_nil _ hnil] at hfirst
    rw [components_of_relative habs hfirst, components_of_relative habs' hfirst', h.componentsOf_eq,
      componentsOf_ofSegments slashless]
  · obtain ⟨gap, trail, hdots, hfilter⟩ := h.exists_filter_eq
    refine ⟨gap, trail, hdots, ?_⟩
    rw [names, hfilter, names_ofSegments slashless]

lemma getLast?_of_cons {c : Component} {cs : List Component} (hc : c ≠ .name name)
    (h : (c :: cs).getLast? = some (.name name)) : cs.getLast? = some (.name name) := by
  rw [List.getLast?_cons, Option.some.injEq] at h
  cases hlast : cs.getLast? with
  | none =>
    rw [hlast] at h
    exact absurd h hc
  | some c' =>
    rw [hlast] at h
    exact congrArg some h

/-- A path that ends in a name has a parent that it is an entry of. -/
lemma exists_parent (h : p.fileName? = some name) :
    ∃ directory, p.parent? = some directory ∧ p.IsEntryOf name directory := by
  have hlast : p.components.getLast? = some (.name name) := by
    unfold fileName? at h
    split at h
    · next heq =>
      cases h
      exact heq
    · cases h
  cases habs : p.isAbsolute with
  | true =>
    obtain ⟨rest, hrest⟩ := exists_segments_of_absolute habs
    rw [components_of_absolute habs, hrest] at hlast
    obtain ⟨front, ends⟩ : ∃ front, EndIn rest front name :=
      exists_endIn (getLast?_of_cons (by simp) hlast)
    exact ⟨_, parent?_of_absolute habs hrest ends, isEntryOf_absolute habs hrest ends⟩
  | false =>
    by_cases hcurrent : p.segments.head? = some "."
    · obtain ⟨rest, hrest⟩ := List.head?_eq_some_iff.mp hcurrent
      rw [components_of_current habs hrest] at hlast
      obtain ⟨front, ends⟩ := exists_endIn (getLast?_of_cons (by simp) hlast)
      exact ⟨_, parent?_of_current habs hrest ends, isEntryOf_current habs hrest ends⟩
    · rw [components_of_relative habs hcurrent] at hlast
      obtain ⟨front, ends⟩ := exists_endIn hlast
      exact ⟨_, parent?_of_relative habs hcurrent ends, isEntryOf_relative habs hcurrent ends⟩

end Parent

/-! ### Parents of children -/

lemma isTrivial_of_isProper {name : String} (h : IsProper name) : isTrivial name = false := by
  simp [isTrivial, h.ne_empty, h.ne_current]

/-- A path that does not end in a slash or a dot is the parent of its children. -/
lemma parent?_child {p : Path} {front : List String} {last name : String}
    (hsegments : p.segments = front ++ [last]) (hlast : isTrivial last = false)
    (hname : IsProper name) : (p.child name).parent? = some p := by
  have hend : ∀ before, p.segments ≠ before ++ [""] := by
    intro before heq
    rw [hsegments] at heq
    obtain rfl : last = "" := by simpa using congrArg List.getLast? heq
    cases hlast
  have hne : p.text ≠ "" := fun hempty =>
    hend [] (congrArg (fun text => (Path.mk text).segments) hempty)
  have hchild : (p.child name).segments = p.segments ++ [name] := by
    have hown := segments_of_slashless hname.slashless
    rcases segments_join p (not_isAbsolute_of_slashless hname.slashless) with
      ⟨hempty, -⟩ | ⟨-, before, hbefore | hbefore, hjoin⟩
    · exact absurd hempty hne
    · rw [child, hjoin, hbefore, hown]
    · exact absurd hbefore (hend before)
  have habsolute := isAbsolute_child hname.slashless hne
  have ends : ∀ before, EndIn (before ++ [name]) before name := fun before =>
    ⟨⟨[], List.forall_mem_nil _, rfl⟩, isTrivial_of_isProper hname, hname.ne_up⟩
  have hkept : ∀ {first rest}, p.segments = first :: rest → isTrivial first = true →
      trimmed rest = rest := by
    intro first rest hrest hfirst
    rw [hrest] at hsegments
    rcases List.cons_eq_append_iff.mp hsegments with ⟨-, hnil⟩ | ⟨before, -, rfl⟩
    · rw [List.cons.injEq] at hnil
      rw [hnil.1, hfirst] at hlast
      cases hlast
    · exact trimmed_concat before hlast
  cases habs : p.isAbsolute with
  | true =>
    obtain ⟨rest, hrest⟩ := exists_segments_of_absolute habs
    have hparent : (p.child name).parent? = some ⟨"/" ++ ofSegments (trimmed rest)⟩ :=
      parent?_of_absolute (habsolute.trans habs) (hchild.trans (by rw [hrest]; rfl)) (ends rest)
    have hmore : rest ≠ [] := by
      rintro rfl
      exact hend [] hrest
    rw [hparent, hkept hrest rfl, ← ofSegments_root hmore, ← hrest, ofSegments_segments]
  | false =>
    by_cases hcurrent : p.segments.head? = some "."
    · obtain ⟨rest, hrest⟩ := List.head?_eq_some_iff.mp hcurrent
      have hparent : (p.child name).parent? = some ⟨ofSegments ("." :: trimmed rest)⟩ :=
        parent?_of_current (habsolute.trans habs) (hchild.trans (by rw [hrest]; rfl)) (ends rest)
      rw [hparent, hkept hrest rfl, ← hrest, ofSegments_segments]
    · have hfirst : (p.child name).segments.head? ≠ some "." := by
        rwa [hchild, hsegments, List.head?_append_of_ne_nil _ (by simp), ← hsegments]
      have hparent : (p.child name).parent? = some ⟨ofSegments (trimmed p.segments)⟩ :=
        parent?_of_relative (habsolute.trans habs) hfirst (hchild ▸ ends p.segments)
      rw [hparent, hsegments, trimmed_concat front hlast, ← hsegments, ofSegments_segments]

/-- A child is the parent of its own children. -/
lemma parent?_child_child (p : Path) {last name : String} (hlast : IsProper last)
    (hname : IsProper name) : ((p.child last).child name).parent? = some (p.child last) := by
  obtain ⟨front, hsegments⟩ : ∃ front, (p.child last).segments = front ++ [last] := by
    have hown := segments_of_slashless hlast.slashless
    rcases segments_join p (not_isAbsolute_of_slashless hlast.slashless) with
      ⟨-, hjoin⟩ | ⟨-, front, -, hjoin⟩
    · exact ⟨[], by rw [child, hjoin, hown]; rfl⟩
    · exact ⟨front, by rw [child, hjoin, hown]⟩
  exact parent?_child hsegments (isTrivial_of_isProper hlast) hname

end Path

namespace Disk

variable {d : Disk} {followLast : Bool} {p directory : Path} {name : String}

lemma IsSound.of_start {q : Path} (hp : IsSound p) (h : ∃ rest, p.text = q.text ++ rest)
    (hne : q.text ≠ "") : IsSound q := by
  obtain ⟨rest, htext⟩ := h
  obtain ⟨no_nul, -, short⟩ := hp
  rw [htext, String.utf8ByteSize_append] at short
  rw [htext, String.toList_append, List.contains_append, Bool.or_eq_false_iff] at no_nul
  exact ⟨no_nul.1, hne, Nat.le_trans (Nat.le_add_right _ _) short⟩

/-- Dots lead nowhere else. -/
lemma resolve_dots {gap : List String} (hgap : ∀ s ∈ gap, s = ".") (links : Nat) (place : Place)
    (rest : List String) : resolve d followLast links place .directory (gap ++ rest) =
      resolve d followLast links place .directory rest := by
  induction gap with
  | nil => rfl
  | cons s gap ih =>
    rw [hgap s (List.mem_cons_self ..), List.cons_append, resolve_current]
    exact ih fun s hs => hgap s (List.mem_cons_of_mem _ hs)

/-- A path that leads somewhere leads there by way of its parent: that is a directory which holds the
name, or in which the name is free. -/
lemma exists_directory_of_locate (entry : p.IsEntryOf name directory) (hne : directory.text ≠ "")
    {cwd : Place} {spot : Spot} (h : d.locate cwd followLast p = .ok spot) :
    ∃ place, d.locateNode cwd true directory = .ok (place, .directory) ∧
      (spot = .free place name ∨ (d.node? (place ++ [name])).isSome) := by
  obtain ⟨hsound, hresolve⟩ := locate_eq_ok_iff.mp h
  obtain ⟨gap, trail, hdots, hnames⟩ := entry.names
  obtain ⟨rest, -, hwalk⟩ := p.exists_walkNames
  have hstart : startOf cwd p = startOf cwd directory := by
    rw [startOf, startOf, Path.isAbsolute_of_start entry.start hne]
  rw [hwalk, hnames, hstart, List.append_assoc] at hresolve
  obtain ⟨used, left, place, node, hlinks, harr, hend⟩ :=
    exists_arrives (fun hnil => by simp at hnil) hresolve
  obtain rfl : node = .directory := by
    by_contra hnode
    obtain ⟨first, others, hfirst⟩ :=
      List.exists_cons_of_ne_nil (l := gap ++ name :: trail ++ rest) (by simp)
    rw [hfirst, resolve_blocked hnode] at hend
    cases hend
  refine ⟨place, locateNode_eq_ok_iff.mpr
    (locate_of_arrives (hsound.of_start entry.start hne) hlinks harr), ?_⟩
  rw [List.append_assoc, resolve_dots fun s hs => hdots s (List.mem_append_left _ hs),
    List.cons_append] at hend
  by_cases hlong : maxName < name.utf8ByteSize
  · rw [resolve_long entry.proper.ne_current entry.proper.ne_up hlong] at hend
    cases hend
  have hsought : IsSought name := ⟨entry.proper.ne_current, entry.proper.ne_up, Nat.not_lt.mp hlong⟩
  cases hnode : d.node? (place ++ [name]) with
  | some node => exact .inr rfl
  | none =>
    rw [resolve_missing hsought hnode] at hend
    split at hend
    · cases hend
      exact .inl rfl
    · cases hend

end Disk

end SnippetForge
