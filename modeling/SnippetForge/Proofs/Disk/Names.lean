import Mathlib
import SnippetForge.Disk.Lookup

/-!
# Names in paths

A path is walked along the names that its text spells. This file relates the two ways in which
paths come about, as the child of another path and as the text of a place, to those names.

A name is *proper* if it can stand between two slashes and mean an entry: it is not empty, has no
slash in it, and is neither `.` nor `..`.
-/

namespace SnippetForge

/-- Whether a name can be that of an entry of a directory. -/
structure IsProper (name : String) : Prop where
  ne_empty : name ≠ ""
  slashless : '/' ∉ name.toList
  ne_current : name ≠ "."
  ne_up : name ≠ ".."

instance (name : String) : Decidable (IsProper name) :=
  decidable_of_iff (name ≠ "" ∧ '/' ∉ name.toList ∧ name ≠ "." ∧ name ≠ "..")
    ⟨fun ⟨h₁, h₂, h₃, h₄⟩ => ⟨h₁, h₂, h₃, h₄⟩, fun ⟨h₁, h₂, h₃, h₄⟩ => ⟨h₁, h₂, h₃, h₄⟩⟩

namespace Path

/-! ### Children -/

/-- The names that a path spells, without the mark of a slash at the end. -/
def names (p : Path) : List String :=
  p.segments.filter (· != "")

/-- The segments of a text with a slash in it are those on either side. -/
lemma segments_slash (a b : String) :
    (Path.mk (a ++ "/" ++ b)).segments = (Path.mk a).segments ++ (Path.mk b).segments := by
  have htext : (a ++ "/" ++ b).toList = a.toList ++ '/' :: b.toList := by simp
  simp only [segments, htext, List.splitOn_append_cons_self, List.map_append]

/-- A text without a slash is its only segment. -/
lemma segments_of_slashless {name : String} (h : '/' ∉ name.toList) :
    (Path.mk name).segments = [name] := by
  simp only [segments, List.splitOn_eq_singleton h, List.map_singleton, String.ofList_toList]

/-- A text that ends with a slash is another text with a slash put at its end. -/
lemma exists_of_endsWithSlash {s : String} (h : endsWithSlash s = true) :
    ∃ a, s = a ++ "/" := by
  unfold endsWithSlash at h
  have hlast : s.toList.getLast? = some '/' := by simpa using h
  obtain ⟨cs, hcs⟩ := List.getLast?_eq_some_iff.mp hlast
  refine ⟨String.ofList cs, ?_⟩
  rw [← String.toList_inj, hcs]
  simp

/-- A text without a slash is a relative path. -/
lemma not_isAbsolute_of_slashless {name : String} (h : '/' ∉ name.toList) :
    (Path.mk name).isAbsolute = false := by
  unfold isAbsolute
  split
  · next heq =>
    simp only at heq
    simp [heq] at h
  · rfl

/-- The text of a path seen from another one. -/
lemma text_join (p : Path) {q : Path} (h : q.isAbsolute = false) :
    (p.join q).text =
      if p.text = "" ∨ endsWithSlash p.text then p.text ++ q.text else p.text ++ "/" ++ q.text := by
  unfold join
  rw [h, if_neg (by simp)]
  split <;> rfl

/-- The text of a child. -/
lemma text_child (p : Path) {name : String} (h : '/' ∉ name.toList) :
    (p.child name).text =
      if p.text = "" ∨ endsWithSlash p.text then p.text ++ name else p.text ++ "/" ++ name :=
  text_join p (not_isAbsolute_of_slashless h)

/-- The segments of a path seen from another one are its own after those of the other, of which an
empty one at the end counts for nothing. -/
lemma segments_join (p : Path) {q : Path} (h : q.isAbsolute = false) :
    (p.text = "" ∧ p.join q = q) ∨
      p.text ≠ "" ∧ ∃ front, (p.segments = front ∨ p.segments = front ++ [""]) ∧
        (p.join q).segments = front ++ q.segments := by
  have hjoin : p.join q = ⟨(p.join q).text⟩ := rfl
  rw [hjoin, text_join p h]
  obtain ⟨text⟩ := p
  by_cases hempty : text = ""
  · subst hempty
    exact .inl ⟨rfl, by simp⟩
  · refine .inr ⟨hempty, ?_⟩
    split
    · next hend =>
      obtain ⟨a, rfl⟩ := exists_of_endsWithSlash (hend.resolve_left hempty)
      have hfront := segments_slash a ""
      have hend : (Path.mk "").segments = [""] := by decide
      rw [String.append_empty, hend] at hfront
      exact ⟨(Path.mk a).segments, .inr hfront, segments_slash a q.text⟩
    · exact ⟨_, .inl rfl, segments_slash text q.text⟩

/-- A path seen from another one is spelled by both. -/
lemma names_join (p : Path) {q : Path} (h : q.isAbsolute = false) :
    (p.join q).names = p.names ++ q.names := by
  rcases segments_join p h with ⟨hempty, hjoin⟩ | ⟨-, front, hfront, hjoin⟩
  · obtain ⟨text⟩ := p
    obtain rfl : text = "" := hempty
    rw [hjoin]
    rfl
  · unfold names
    rw [hjoin, List.filter_append]
    rcases hfront with hfront | hfront <;> simp [hfront]

/-- A child is spelled by its directory and its name. -/
lemma names_child (p : Path) {name : String} (hslash : '/' ∉ name.toList) (hne : name ≠ "") :
    (p.child name).names = p.names ++ [name] := by
  rw [child, names_join p (not_isAbsolute_of_slashless hslash)]
  simp [names, segments_of_slashless hslash, hne]

/-- A text that ends with a name does not end with a slash. -/
lemma endsWithSlash_append (s : String) {name : String} (hslash : '/' ∉ name.toList)
    (hne : name ≠ "") : endsWithSlash (s ++ name) = false := by
  have hnil : name.toList ≠ [] := by simpa using hne
  obtain ⟨cs, c, hname⟩ := List.eq_nil_or_concat name.toList |>.resolve_left hnil
  have hc : c ≠ '/' := by
    rintro rfl
    simp [hname] at hslash
  simp [endsWithSlash, String.toList_append, hname, hc]

/-- A child does not end with a slash. -/
lemma endsWithSlash_child (p : Path) {name : String} (hslash : '/' ∉ name.toList)
    (hne : name ≠ "") : endsWithSlash (p.child name).text = false := by
  rw [text_child p hslash]
  split
  · exact endsWithSlash_append _ hslash hne
  · exact endsWithSlash_append _ hslash hne

/-- The names that a child is walked along. -/
lemma walkNames_child (p : Path) {name : String} (hslash : '/' ∉ name.toList) (hne : name ≠ "") :
    Disk.walkNames (p.child name) = p.names ++ [name] := by
  unfold Disk.walkNames
  rw [endsWithSlash_child p hslash hne]
  exact names_child p hslash hne

/-- A path is walked along its names, and along a last `.` if a slash is at its end. -/
lemma exists_walkNames (p : Path) :
    ∃ rest, (rest = [] ∨ rest = ["."]) ∧ Disk.walkNames p = p.names ++ rest := by
  unfold Disk.walkNames names
  split
  · exact ⟨["."], .inr rfl, rfl⟩
  · exact ⟨[], .inl rfl, (List.append_nil _).symm⟩

/-- A name is walked along itself. -/
lemma walkNames_of_isProper {name : String} (hname : IsProper name) :
    Disk.walkNames ⟨name⟩ = [name] := by
  have hend : endsWithSlash name = false := by
    simpa using endsWithSlash_append "" hname.slashless hname.ne_empty
  unfold Disk.walkNames
  simp [hend, segments_of_slashless hname.slashless, hname.ne_empty]

/-- The text of a child ends with its name. -/
lemma exists_text_child (p : Path) {name : String} (h : '/' ∉ name.toList) :
    ∃ front, (p.child name).text = front ++ name := by
  rw [text_child p h]
  split
  · exact ⟨p.text, rfl⟩
  · exact ⟨p.text ++ "/", rfl⟩

lemma isAbsolute_eq (p : Path) : p.isAbsolute = (p.text.toList.head? == some '/') := by
  unfold isAbsolute
  split
  · next h => simp [h]
  · next h =>
    cases hlist : p.text.toList with
    | nil => rfl
    | cons c cs =>
      have hc : c ≠ '/' := by
        rintro rfl
        exact h cs hlist
      simp [hc]

/-- Joining keeps a path that is not empty absolute or relative. -/
lemma isAbsolute_join {p q : Path} (h : q.isAbsolute = false) (hne : p.text ≠ "") :
    (p.join q).isAbsolute = p.isAbsolute := by
  have hnil : p.text.toList ≠ [] := by simpa using hne
  obtain ⟨c, cs, hcs⟩ := List.exists_cons_of_ne_nil hnil
  rw [isAbsolute_eq, isAbsolute_eq, text_join p h]
  split <;> simp [String.toList_append, hcs]

/-- A child is absolute if its directory is. -/
lemma isAbsolute_child {p : Path} {name : String} (hslash : '/' ∉ name.toList)
    (hne : p.text ≠ "") : (p.child name).isAbsolute = p.isAbsolute :=
  isAbsolute_join (not_isAbsolute_of_slashless hslash) hne

lemma text_child_ne_empty (p : Path) {name : String} (hslash : '/' ∉ name.toList)
    (hne : name ≠ "") : (p.child name).text ≠ "" := by
  obtain ⟨front, hfront⟩ := exists_text_child p hslash
  intro h
  have happend := congrArg String.toList (hfront.symm.trans h)
  simp only [String.toList_append, String.toList_empty, List.append_eq_nil_iff] at happend
  exact hne (String.toList_inj.mp happend.2)

/-! ### Descendants -/

/-- The path of a place below a directory, spelled from that of the directory. -/
def descend (directory : Path) (rel : Place) : Path :=
  rel.foldl child directory

lemma descend_concat (p : Path) (rel : Place) (name : String) :
    p.descend (rel ++ [name]) = (p.descend rel).child name := by
  unfold descend
  rw [List.foldl_append]
  rfl

lemma names_descend (p : Path) {rel : Place} (hrel : ∀ n ∈ rel, IsProper n) :
    (p.descend rel).names = p.names ++ rel := by
  induction rel using List.reverseRecOn with
  | nil => exact (List.append_nil _).symm
  | append_singleton rel name ih =>
    have hname := hrel name (by simp)
    rw [descend_concat, names_child _ hname.slashless hname.ne_empty,
      ih fun n hn => hrel n (List.mem_append_left _ hn), List.append_assoc]

/-- A proper descendant is walked along the names of its directory and its own. -/
lemma walkNames_descend (p : Path) {rel : Place} (hrel : ∀ n ∈ rel, IsProper n) (hne : rel ≠ []) :
    Disk.walkNames (p.descend rel) = p.names ++ rel := by
  rcases List.eq_nil_or_concat rel with rfl | ⟨above, name, rfl⟩
  · exact absurd rfl hne
  · rw [List.concat_eq_append] at hrel ⊢
    have hname := hrel name (by simp)
    rw [descend_concat, walkNames_child _ hname.slashless hname.ne_empty,
      names_descend p fun n hn => hrel n (List.mem_append_left _ hn), List.append_assoc]

/-- Descending keeps a path that is not empty absolute or relative. -/
lemma isAbsolute_descend_eq {p : Path} {rel : Place} (hrel : ∀ n ∈ rel, IsProper n)
    (hne : p.text ≠ "") : (p.descend rel).isAbsolute = p.isAbsolute := by
  induction rel generalizing p with
  | nil => rfl
  | cons first rel ih =>
    have hfirst := hrel first (List.mem_cons_self ..)
    rw [← isAbsolute_child hfirst.slashless hne]
    exact ih (fun n hn => hrel n (List.mem_cons_of_mem _ hn))
      (text_child_ne_empty p hfirst.slashless hfirst.ne_empty)

/-- A descendant is absolute if its directory is. -/
lemma isAbsolute_descend {p : Path} {rel : Place} (hrel : ∀ n ∈ rel, IsProper n)
    (habs : p.isAbsolute = true) : (p.descend rel).isAbsolute = true := by
  have hne : p.text ≠ "" := by
    intro hempty
    simp [isAbsolute, hempty] at habs
  rw [isAbsolute_descend_eq hrel hne, habs]

end Path

namespace Place

/-! ### Texts of places -/

lemma text_path (place : Place) :
    place.path.text = "/" ++ String.intercalate "/" place := rfl

lemma isAbsolute_path (place : Place) : place.path.isAbsolute = true := by
  simp [Path.isAbsolute, text_path]

lemma text_path_ne_empty (place : Place) : place.path.text ≠ "" := by
  simp [text_path]

/-- The path of a place is that of the place above it with one more name. -/
lemma path_append {place : Place} (hproper : ∀ name ∈ place, IsProper name) {name : String}
    (hslash : '/' ∉ name.toList) : Place.path (place ++ [name]) = place.path.child name := by
  have hchild : place.path.child name = ⟨(place.path.child name).text⟩ := rfl
  rw [hchild, Path.text_child _ hslash]
  rcases List.eq_nil_or_concat place with rfl | ⟨above, last, rfl⟩
  · rfl
  · have hlast := hproper last (by simp)
    have hend : Path.endsWithSlash (Place.path (above ++ [last])).text = false := by
      rw [text_path]
      rcases List.eq_nil_or_concat above with rfl | ⟨_, _, rfl⟩
      · exact Path.endsWithSlash_append _ hlast.slashless hlast.ne_empty
      · rw [String.intercalate_append_of_ne_nil (by simp) (by simp), String.intercalate_singleton,
          ← String.append_assoc]
        exact Path.endsWithSlash_append _ hlast.slashless hlast.ne_empty
    rw [if_neg (by simp [hend, text_path_ne_empty])]
    simp only [path, Path.mk.injEq]
    rw [String.intercalate_append_of_ne_nil (by simp) (by simp), String.intercalate_singleton]
    simp only [String.append_assoc]

/-- A place is walked along its own names. -/
lemma names_path {place : Place} (hproper : ∀ name ∈ place, IsProper name) :
    place.path.names = place := by
  induction place using List.reverseRecOn with
  | nil => decide
  | append_singleton above name ih =>
    have hname := hproper name (by simp)
    have habove : ∀ n ∈ above, IsProper n := fun n hn => hproper n (by simp [hn])
    rw [path_append habove hname.slashless, Path.names_child _ hname.slashless hname.ne_empty,
      ih habove]

end Place

end SnippetForge
