import SnippetForge.Proofs.Disk.Names

/-!
# Components of joined paths

A path is checked by its components and used by its spelling. The two differ: a doubled slash, an
inner `.` and a slash at the end are spelled but mean nothing, and an absolute path would replace
the one it is joined to. This file shows that they agree where it matters. A *plain* path has only
names as components; it can be told from the spelling, and joined to any path it adds exactly its
own components to those of that path.
-/

namespace SnippetForge.Path

/-! ### Components and segments -/

lemma componentsOf_append (a b : List String) :
    componentsOf (a ++ b) = componentsOf a ++ componentsOf b := by
  simp only [componentsOf, List.filter_append, List.map_append]

/-- An empty segment means nothing. -/
lemma componentsOf_concat_empty (a : List String) : componentsOf (a ++ [""]) = componentsOf a := by
  rw [componentsOf_append]
  exact List.append_nil _

lemma components_of_absolute {p : Path} (h : p.isAbsolute = true) :
    p.components = .root :: componentsOf p.segments := by
  rw [components, if_pos h]

lemma components_of_current {p : Path} (h : p.isAbsolute = false) {rest : List String}
    (hrest : p.segments = "." :: rest) : p.components = .current :: componentsOf rest := by
  simp [components, h, hrest]

lemma components_of_relative {p : Path} (h : p.isAbsolute = false)
    (hfirst : p.segments.head? ≠ some ".") : p.components = componentsOf p.segments := by
  rw [components, if_neg (by simp [h])]
  split
  · next heq => exact absurd (by simp [heq]) hfirst
  · rfl

/-- A text is its first segment, or a slash and another text come after it. -/
lemma exists_segments_eq (text : String) :
    ∃ first rest, (Path.mk text).segments = first :: rest ∧
      ((text = first ∧ rest = []) ∨
        ∃ more, text = first ++ "/" ++ more ∧ rest = (Path.mk more).segments) := by
  by_cases hslash : '/' ∈ text.toList
  · obtain ⟨before, after, htext, hbefore⟩ := List.eq_append_cons_of_mem hslash
    have hsplit : text = String.ofList before ++ "/" ++ String.ofList after := by
      rw [← String.toList_inj, htext]
      simp
    refine ⟨String.ofList before, (Path.mk (String.ofList after)).segments, ?_, .inr ⟨_, hsplit, rfl⟩⟩
    rw [hsplit, segments_slash, segments_of_slashless (by simpa using hbefore)]
    rfl
  · exact ⟨text, [], segments_of_slashless hslash, .inl ⟨rfl, rfl⟩⟩

/-- A path starts in the current directory if its text is a dot or starts with a dot and a slash. -/
lemma head?_segments_eq_current_iff (text : String) :
    (Path.mk text).segments.head? = some "." ↔ text = "." ∨ "./".toList <+: text.toList := by
  constructor
  · intro h
    obtain ⟨first, rest, hsegments, htext⟩ := exists_segments_eq text
    obtain rfl : first = "." := by simpa [hsegments] using h
    rcases htext with ⟨rfl, -⟩ | ⟨more, rfl, -⟩
    · exact .inl rfl
    · refine .inr ⟨more.toList, ?_⟩
      simp only [String.toList_append]
      rfl
  · rintro (rfl | ⟨more, hmore⟩)
    · decide
    · have htext : text = "." ++ "/" ++ String.ofList more := by
        rw [← String.toList_inj, ← hmore]
        simp only [String.toList_append, String.toList_ofList]
        rfl
      have hdot : (Path.mk ".").segments = ["."] := by decide
      rw [htext, segments_slash, hdot]
      rfl

/-- A path is absolute if its text starts with a slash. -/
lemma isAbsolute_iff (p : Path) : p.isAbsolute = true ↔ "/".toList <+: p.text.toList := by
  rw [isAbsolute_eq, beq_iff_eq]
  cases htext : p.text.toList with
  | nil => simp
  | cons c rest => simp [List.cons_prefix_cons, eq_comm]

/-- Only the empty path has no components. -/
lemma components_eq_nil_iff (p : Path) : p.components = [] ↔ p.text = "" := by
  constructor
  · intro h
    have habs : p.isAbsolute = false := by
      rw [Bool.eq_false_iff]
      intro habs
      rw [components_of_absolute habs] at h
      cases h
    have hcurrent : p.segments.head? ≠ some "." := by
      intro hcurrent
      obtain ⟨rest, hrest⟩ := List.head?_eq_some_iff.mp hcurrent
      rw [components_of_current habs hrest] at h
      cases h
    obtain ⟨first, rest, hsegments, htext⟩ := exists_segments_eq p.text
    have hp : p = ⟨p.text⟩ := rfl
    rw [← hp] at hsegments
    rw [components_of_relative habs hcurrent, hsegments, componentsOf, List.map_eq_nil_iff] at h
    rw [hsegments] at hcurrent
    have hfirst := List.filter_eq_nil_iff.mp h first (List.mem_cons_self ..)
    obtain rfl : first = "" := by
      simpa [isTrivial, show first ≠ "." by simpa using hcurrent] using hfirst
    rcases htext with ⟨htext, -⟩ | ⟨more, htext, -⟩
    · exact htext
    · rw [isAbsolute_eq, htext] at habs
      simp at habs
  · obtain ⟨text⟩ := p
    rintro rfl
    rfl

/-! ### Plain paths -/

/-- A path is plain if its text neither starts at the root nor in the current directory, and no
segment leads up. -/
lemma isPlain_iff (p : Path) :
    p.isPlain = true ↔
      p.isAbsolute = false ∧ p.segments.head? ≠ some "." ∧ ".." ∉ p.segments := by
  unfold isPlain
  by_cases habs : p.isAbsolute = true
  · rw [components_of_absolute habs]
    simp [habs]
  rw [Bool.not_eq_true] at habs
  by_cases hfirst : p.segments.head? = some "."
  · obtain ⟨rest, hrest⟩ := List.head?_eq_some_iff.mp hfirst
    rw [components_of_current habs hrest]
    simp [hrest]
  · rw [components_of_relative habs hfirst]
    simp only [habs, hfirst, componentsOf, List.all_map, List.all_filter, ne_eq, not_false_eq_true,
      true_and, List.all_eq_true]
    constructor
    · intro h hup
      have := h ".." hup
      simp [isTrivial, componentOf] at this
    · intro h segment hsegment
      have hne : segment ≠ ".." := fun heq => h (heq ▸ hsegment)
      simp [componentOf, hne]

lemma not_isAbsolute_of_isPlain {p : Path} (h : p.isPlain = true) : p.isAbsolute = false :=
  ((isPlain_iff p).mp h).1

/-- The names of entries that a plain path means. -/
def entryNames (p : Path) : List String :=
  p.segments.filter fun s => !isTrivial s

lemma components_of_isPlain {p : Path} (h : p.isPlain = true) :
    p.components = p.entryNames.map .name := by
  obtain ⟨habs, hfirst, hup⟩ := (isPlain_iff p).mp h
  rw [components_of_relative habs hfirst, componentsOf, entryNames]
  refine List.map_congr_left fun segment hsegment => ?_
  have hne : segment ≠ ".." := fun heq => hup (heq ▸ (List.mem_filter.mp hsegment).1)
  rw [componentOf, if_neg hne]

/-- None of the entries that a plain path means is a dot or two dots. -/
lemma ne_of_mem_entryNames {p : Path} (h : p.isPlain = true) {n : String} (hn : n ∈ p.entryNames) :
    n ≠ "." ∧ n ≠ ".." := by
  obtain ⟨hsegment, htrivial⟩ := List.mem_filter.mp hn
  constructor
  · rintro rfl
    simp [isTrivial] at htrivial
  · rintro rfl
    exact ((isPlain_iff p).mp h).2.2 hsegment

/-- A plain path that is not empty means at least one entry. -/
lemma entryNames_ne_nil {p : Path} (h : p.isPlain = true) (hne : p.text ≠ "") :
    p.entryNames ≠ [] := by
  intro hnil
  refine hne ((components_eq_nil_iff p).mp ?_)
  rw [components_of_isPlain h, hnil, List.map_nil]

/-- A plain path spells nothing that leads up. -/
lemma up_notMem_names {p : Path} (h : p.isPlain = true) : ".." ∉ p.names :=
  fun hup => ((isPlain_iff p).mp h).2.2 (List.mem_filter.mp hup).1

lemma names_ne_nil {p : Path} (h : p.isPlain = true) (hne : p.text ≠ "") : p.names ≠ [] := by
  obtain ⟨first, rest, hentries⟩ := List.exists_cons_of_ne_nil (entryNames_ne_nil h hne)
  have hmem : first ∈ p.entryNames := by simp [hentries]
  obtain ⟨hsegment, htrivial⟩ := List.mem_filter.mp hmem
  refine List.ne_nil_of_mem (List.mem_filter.mpr ⟨hsegment, ?_⟩)
  simp only [isTrivial, Bool.not_or, Bool.and_eq_true] at htrivial
  exact htrivial.1

/-! ### Joining -/

lemma text_join_ne_empty (p : Path) {q : Path} (h : q.isAbsolute = false) (hne : q.text ≠ "") :
    (p.join q).text ≠ "" := by
  rw [text_join p h]
  split <;> simp [hne]

/-- A plain path adds its own components to those of the path it is joined to. -/
lemma components_join (p : Path) {q : Path} (h : q.isPlain = true) :
    (p.join q).components = p.components ++ q.components := by
  obtain ⟨hrelative, hcurrent, -⟩ := (isPlain_iff q).mp h
  rcases segments_join p hrelative with ⟨hempty, hjoin⟩ | ⟨hne, front, hfront, hjoin⟩
  · obtain ⟨text⟩ := p
    obtain rfl : text = "" := hempty
    rw [hjoin]
    rfl
  have hq : q.components = componentsOf q.segments := components_of_relative hrelative hcurrent
  have habs := isAbsolute_join hrelative hne
  have hsame : componentsOf p.segments = componentsOf front := by
    rcases hfront with hfront | hfront
    · rw [hfront]
    · rw [hfront, componentsOf_concat_empty]
  cases hroot : p.isAbsolute with
  | true =>
    rw [hroot] at habs
    rw [components_of_absolute habs, components_of_absolute hroot, hjoin, componentsOf_append, hq,
      hsame]
    rfl
  | false =>
    rw [hroot] at habs
    cases front with
    | nil =>
      -- The path spells one empty segment, which starts nowhere.
      have hhead : p.segments.head? ≠ some "." := by rcases hfront with h | h <;> simp [h]
      rw [List.nil_append] at hjoin
      rw [components_of_relative habs (hjoin ▸ hcurrent), components_of_relative hroot hhead, hjoin,
        hq, hsame]
      rfl
    | cons first front =>
      rw [List.cons_append] at hfront hjoin
      have hhead : p.segments.head? = some first := by rcases hfront with h | h <;> simp [h]
      by_cases hdot : first = "."
      · subst hdot
        obtain ⟨rest, hrest⟩ := List.head?_eq_some_iff.mp hhead
        have hfrontOf : componentsOf rest = componentsOf front := by
          rcases hfront with h | h
          · rw [List.cons.inj (hrest.symm.trans h) |>.2]
          · rw [List.cons.inj (hrest.symm.trans h) |>.2, componentsOf_concat_empty]
        rw [components_of_current habs hjoin, components_of_current hroot hrest,
          componentsOf_append, hq, hfrontOf]
        rfl
      · have hjoined : (p.join q).segments.head? ≠ some "." := by simp [hjoin, hdot]
        rw [components_of_relative habs hjoined,
          components_of_relative hroot (by simp [hhead, hdot]), hjoin, ← List.cons_append,
          componentsOf_append, hq, hsame]

/-- A proper name is a plain path, and it is its own only component. -/
lemma components_of_isProper {name : String} (h : IsProper name) :
    (Path.mk name).isPlain = true ∧ (Path.mk name).components = [.name name] := by
  have hsegments := segments_of_slashless h.slashless
  have hplain : (Path.mk name).isPlain = true := by
    refine (isPlain_iff _).mpr ⟨not_isAbsolute_of_slashless h.slashless, ?_, ?_⟩
    · simpa [hsegments] using h.ne_current
    · simpa [hsegments] using h.ne_up.symm
  refine ⟨hplain, ?_⟩
  rw [components_of_isPlain hplain, entryNames, hsegments]
  simp [isTrivial, h.ne_empty, h.ne_current]

/-- A descendant has the components of its directory and the names that lead to it. -/
lemma components_descend (p : Path) {rel : Place} (hrel : ∀ n ∈ rel, IsProper n) :
    (p.descend rel).components = p.components ++ rel.map .name := by
  induction rel using List.reverseRecOn with
  | nil => exact (List.append_nil _).symm
  | append_singleton rel name ih =>
    obtain ⟨hplain, hname⟩ := components_of_isProper (hrel name (by simp))
    rw [descend_concat, child, components_join _ hplain, hname,
      ih fun n hn => hrel n (List.mem_append_left _ hn), List.map_append, List.append_assoc]
    rfl

end SnippetForge.Path
