import SnippetForge.Proofs.Disk.Components
import SnippetForge.Proofs.Staging.Areas

/-!
# Language tags

A tag is text from outside, and it ends up in the name of a file. What keeps it in its place is that
an extension has letters and digits alone, and few of them. So the entry file is directly in its area,
whatever the tag, and it is never where bundles go.

A tag is *unusable* if it cannot be an extension. All of these get the same one, and that is reported.
Every other tag can be told from its extension together with how that was chosen, although different
tags may get the same extension.
-/

namespace SnippetForge

namespace EntryExtension

/-! ### Unusable tags -/

/-- A letter or a digit of ASCII. -/
def IsPlain (c : Char) : Prop :=
  ('a' ≤ c ∧ c ≤ 'z') ∨ ('A' ≤ c ∧ c ≤ 'Z') ∨ ('0' ≤ c ∧ c ≤ '9')

lemma isAlphanum_iff (c : Char) : c.isAlphanum = true ↔ IsPlain c := by
  simp only [Char.isAlphanum, Char.isAlpha, Char.isUpper, Char.isLower, Char.isDigit, Bool.or_eq_true,
    Bool.and_eq_true, decide_eq_true_eq, IsPlain, Char.le_def, ge_iff_le]
  tauto

/-- A tag is empty, too long, or has something else than letters and digits in it. -/
def IsUnusable (tag : String) : Prop :=
  tag = "" ∨ 16 < tag.utf8ByteSize ∨ ∃ c ∈ tag.toList, ¬IsPlain c

lemma isUsable_eq_true_iff (tag : String) : isUsable tag = true ↔ ¬IsUnusable tag := by
  have hsize : decide (tag.utf8ByteSize ≤ maxLiteral) = true ↔ tag.utf8ByteSize ≤ 16 :=
    decide_eq_true_iff
  rw [isUsable, Bool.and_eq_true, Bool.and_eq_true, hsize]
  simp [IsUnusable, isAlphanum_iff, and_assoc]

/-- How the extension for a tag is chosen. -/
inductive Chosen : String → EntryExtension → Prop
  | typeScript : Chosen "typescript" ⟨"ts", none⟩
  | javaScript : Chosen "javascript" ⟨"js", none⟩
  | literal {tag : String} (unknown : Language.ofTag? tag = none) (usable : ¬IsUnusable tag) :
      Chosen tag ⟨tag, some .literalTag⟩
  | default {tag : String} (unusable : IsUnusable tag) : Chosen tag ⟨"js", some .default⟩

lemma chosen_ofTag (tag : String) : Chosen tag (ofTag tag) := by
  by_cases htyped : tag = "typescript"
  · subst htyped
    exact .typeScript
  by_cases hplain : tag = "javascript"
  · subst hplain
    exact .javaScript
  have hunknown : Language.ofTag? tag = none := by
    rw [Language.ofTag?, if_neg htyped, if_neg hplain]
  rw [ofTag, hunknown]
  cases husable : isUsable tag with
  | true => exact .literal hunknown ((isUsable_eq_true_iff tag).mp husable)
  | false =>
    refine .default (not_not.mp fun h => ?_)
    rw [(isUsable_eq_true_iff tag).mpr h] at husable
    cases husable

lemma not_isUnusable_known : ¬IsUnusable "typescript" ∧ ¬IsUnusable "javascript" := by
  rw [← isUsable_eq_true_iff, ← isUsable_eq_true_iff]
  decide

namespace Chosen

variable {tag tag' : String} {e e' : EntryExtension}

/-- An unusable tag has the extension of plain scripts. -/
lemma eq_default (h : Chosen tag e) (unusable : IsUnusable tag) : e = ⟨"js", some .default⟩ := by
  cases h with
  | typeScript => exact absurd unusable not_isUnusable_known.1
  | javaScript => exact absurd unusable not_isUnusable_known.2
  | literal unknown usable => exact absurd unusable usable
  | default _ => rfl

lemma usedDefault_iff (h : Chosen tag e) : e.usedDefault = true ↔ IsUnusable tag := by
  constructor
  · intro hdefault
    cases h with
    | default unusable => exact unusable
    | _ => cases hdefault
  · intro unusable
    rw [h.eq_default unusable]
    rfl

/-- Two tags with the same extension, chosen in the same way, are the same or are both unusable. -/
lemma eq_or_isUnusable (h : Chosen tag e) (h' : Chosen tag' e') (heq : e = e') :
    tag = tag' ∨ IsUnusable tag ∧ IsUnusable tag' := by
  cases h <;> cases h' <;> simp only [mk.injEq] at heq
  case typeScript.typeScript => exact .inl rfl
  case javaScript.javaScript => exact .inl rfl
  case literal.literal => exact .inl heq.1
  case default.default unusable unusable' => exact .inr ⟨unusable, unusable'⟩
  all_goals simp at heq

/-- An extension could be a tag. -/
lemma not_isUnusable_extension (h : Chosen tag e) : ¬IsUnusable e.extension := by
  cases h with
  | literal unknown usable => exact usable
  | _ => exact (isUsable_eq_true_iff _).mp (by decide)

/-- An extension as a tag gives the same extension. -/
lemma extension_ofTag_extension (h : Chosen tag e) :
    (ofTag e.extension).extension = e.extension := by
  cases h with
  | literal unknown usable => rw [ofTag, unknown, if_pos ((isUsable_eq_true_iff _).mpr usable)]
  | _ => decide

end Chosen

/-- The extensions of two tags are the same, chosen in the same way, exactly if the tags are the same
or are both unusable. -/
lemma ofTag_eq_iff (tag tag' : String) :
    ofTag tag = ofTag tag' ↔ tag = tag' ∨ IsUnusable tag ∧ IsUnusable tag' := by
  constructor
  · exact (chosen_ofTag tag).eq_or_isUnusable (chosen_ofTag tag')
  · rintro (rfl | ⟨unusable, unusable'⟩)
    · rfl
    · rw [(chosen_ofTag tag).eq_default unusable, (chosen_ofTag tag').eq_default unusable']

/-! ### The name of the entry file -/

lemma utf8Size_of_isPlain {c : Char} (h : IsPlain c) : c.utf8Size = 1 := by
  rw [Char.utf8Size_eq_one_iff]
  rcases h with ⟨-, hle⟩ | ⟨-, hle⟩ | ⟨-, hle⟩ <;>
    exact UInt32.le_trans (Char.le_def.mp hle) (by decide)

/-- The extension of an entry file is short and plain, and the file has one name, which is not that of
the directory for bundles. -/
structure IsConfined (e : EntryExtension) : Prop where
  size : 1 ≤ e.extension.length ∧ e.extension.length ≤ 16
  plain : ∀ c ∈ e.extension.toList, IsPlain c
  fileName : e.fileName = "index." ++ e.extension
  single : (Path.mk e.fileName).components = [.name e.fileName]
  apart : e.fileName ≠ StagingArea.outputName

lemma isConfined_ofTag (tag : String) : (ofTag tag).IsConfined := by
  have husable := (chosen_ofTag tag).not_isUnusable_extension
  simp only [IsUnusable, not_or, not_lt, not_exists, not_and, not_not] at husable
  obtain ⟨hne, hshort, hplain⟩ := husable
  have hsize := Text.size_ofList fun c hc => utf8Size_of_isPlain (hplain c hc)
  rw [String.ofList_toList, String.length_toList] at hsize
  have hpos : 1 ≤ (ofTag tag).extension.length := by
    rw [← String.length_toList]
    exact List.length_pos_of_ne_nil (by simpa using hne)
  exact ⟨⟨hpos, hsize ▸ hshort⟩, hplain, rfl,
    (Path.components_of_isProper (isProper_fileName tag)).2, StagingArea.fileName_ne_outputName tag⟩

end EntryExtension

/-! ### Writing the entry -/

namespace StagingArea

open EntryExtension (IsUnusable ofTag)

/-- A file with a source has been put directly into an area, where nothing was, and nothing else has
changed. -/
structure Gains (area : StagingArea) (d : Disk) (name source : String) (d' : Disk) (place : Place) :
    Prop where
  located : ∀ cwd, d.locateNode cwd true area.path = .ok (place, .directory)
  free : d.entry? (place ++ [name]) = none
  written : d'.node? (place ++ [name]) = some (.file source.toUTF8)
  unchanged : ∀ q, q ≠ place ++ [name] → d'.entry? q = d.entry? q

/-- An entry that is written into a new area is all that its disk gains. -/
lemma exists_gains {d d₁ d₂ : Disk} {cwd cwd' : Place} {root p : Path} {names : Nat → String}
    {drawn drawn' : Nat} {area : StagingArea} {tag source : String} (tree : d.WellFormed)
    (slashless : ∀ n, '/' ∉ (names n).toList)
    (created : create d cwd root names drawn = (drawn', .ok (area, d₁)))
    (written : area.writeEntry d₁ cwd' (ofTag tag) source = .ok (p, d₂)) :
    (∃ place, area.Gains d₁ (ofTag tag).fileName source d₂ place) ∧
      ∀ cwd, d₂.readText cwd (area.entryPath (ofTag tag)) = .ok source := by
  obtain ⟨parent, n, -, hattempt⟩ := exists_attempt_of_create created
  obtain ⟨rfl, hmake⟩ := attempt_eq_made hattempt
  obtain ⟨place, hfree, rfl, hleads⟩ := leadsTo_of_made (slashless n) hmake
  have hname := EntryExtension.isProper_fileName tag
  have habs := isAbsolute_below parent (slashless n)
  have hempty : Disk.entry? (d.add place .directory Mode.secluded)
      (place ++ [(ofTag tag).fileName]) = none := by
    rw [Disk.entry?_add hfree, if_neg (by simp)]
    exact tree.entry?_below hfree [(ofTag tag).fileName]
  have hdisk := writeEntry_eq_ok hname habs hleads hempty written
  have hadd := Disk.entry?_add hempty (.file source.toUTF8) Mode.file
  rw [← hdisk] at hadd
  refine ⟨⟨place, fun c => ?_, hempty, ?_, fun q hq => ?_⟩,
    fun c => readText_of_writeEntry hname habs hleads hempty written c⟩
  · obtain ⟨spot, hlocate⟩ := exists_locate_of_writeEntry written
    have hsound : Disk.IsSound (below parent (names n)).path := by
      refine (Disk.isSound_of_locate hlocate).of_join
        (Path.not_isAbsolute_of_slashless hname.slashless) fun hnil => ?_
      simp [Path.isAbsolute, hnil] at habs
    obtain ⟨used, left, hlinks, harr⟩ := hleads
    have hstart : Disk.startOf c (below parent (names n)).path = [] := if_pos habs
    rw [← hstart] at harr
    exact Disk.locateNode_eq_ok_iff.mpr (Disk.locate_of_arrives hsound hlinks harr)
  · rw [Disk.node?, hadd, if_pos rfl]
    rfl
  · rw [hadd, if_neg hq]

end StagingArea

/-- Whatever the tag, its extension is short and plain and keeps the entry file in its place, and as a
tag it gives itself. Exactly the unusable tags have the extension that stands in for them, and all
other tags are told apart by their extensions and the way these were chosen. An entry that is written
into a new area is put directly into it, holds the source, and is all that changes. -/
theorem EntryExtension.confined_and_told_apart :
    (∀ tag, (ofTag tag).IsConfined) ∧
    (∀ tag, (ofTag tag).usedDefault = true ↔ IsUnusable tag) ∧
    (∀ tag tag', ofTag tag = ofTag tag' ↔ tag = tag' ∨
      (ofTag tag).usedDefault = true ∧ (ofTag tag').usedDefault = true) ∧
    (∀ tag, (ofTag (ofTag tag).extension).extension = (ofTag tag).extension) ∧
    ∀ (names : Nat → String) (d d₁ d₂ : Disk) (cwd cwd' : Place) (root p : Path) (drawn drawn' : Nat)
      (area : StagingArea) (tag source : String), d.WellFormed → (∀ n, '/' ∉ (names n).toList) →
      StagingArea.create d cwd root names drawn = (drawn', .ok (area, d₁)) →
      area.writeEntry d₁ cwd' (ofTag tag) source = .ok (p, d₂) →
      p = area.path.child (ofTag tag).fileName ∧
        (∃ place, area.Gains d₁ (ofTag tag).fileName source d₂ place) ∧
        ∀ cwd, d₂.readText cwd p = .ok source := by
  have told := fun tag => (chosen_ofTag tag).usedDefault_iff
  refine ⟨isConfined_ofTag, told, fun tag tag' => ?_,
    fun tag => (chosen_ofTag tag).extension_ofTag_extension, ?_⟩
  · rw [told, told]
    exact ofTag_eq_iff tag tag'
  · intro names d d₁ d₂ cwd cwd' root p drawn drawn' area tag source tree slashless created written
    obtain rfl := StagingArea.eq_entryPath_of_writeEntry written
    exact ⟨rfl, StagingArea.exists_gains tree slashless created written⟩

/-- A disk with a directory for staging. -/
def stagingDisk : Disk :=
  ⟨[(["tmp"], ⟨.directory, 1, Mode.directory, 0⟩)], 2, 0⟩

/-- A tag that would lead out of the area is as unusable as the empty one, and two tags for the same
extension are told apart. -/
theorem EntryExtension.confined_and_told_apart_leading_out :
    ∃ area d₁ p d₂, stagingDisk.WellFormed ∧
      StagingArea.create stagingDisk [] ⟨"/tmp"⟩ (fun _ => "aaaaaa") 0 = (1, .ok (area, d₁)) ∧
      area.writeEntry d₁ [] (ofTag "/../../x") "let a;" = .ok (p, d₂) ∧
      p = area.path.child "index.js" ∧
      (∃ place, area.Gains d₁ "index.js" "let a;" d₂ place) ∧
      ofTag "/../../x" = ofTag "" ∧ ofTag "ts" ≠ ofTag "typescript" := by
  have tree : stagingDisk.WellFormed := by decide
  have slashless : ∀ n, '/' ∉ ((fun _ => "aaaaaa" : Nat → String) n).toList :=
    fun _ => (by decide : '/' ∉ "aaaaaa".toList)
  have created : StagingArea.create stagingDisk [] ⟨"/tmp"⟩ (fun _ => "aaaaaa") 0 =
      (1, .ok (.below ["tmp"] "aaaaaa",
        stagingDisk.add ["tmp", "codeblock-aaaaaa"] .directory Mode.secluded)) := by
    decide +kernel
  have written : (StagingArea.below ["tmp"] "aaaaaa").writeEntry
      (stagingDisk.add ["tmp", "codeblock-aaaaaa"] .directory Mode.secluded) []
      (ofTag "/../../x") "let a;" = .ok (⟨"/tmp/codeblock-aaaaaa/index.js"⟩,
        (stagingDisk.add ["tmp", "codeblock-aaaaaa"] .directory Mode.secluded).add
          ["tmp", "codeblock-aaaaaa", "index.js"] (.file "let a;".toUTF8) Mode.file) := by
    decide +kernel
  obtain ⟨-, -, apart, -, gains⟩ := confined_and_told_apart
  obtain ⟨hpath, hgains, -⟩ := gains _ _ _ _ _ _ _ _ _ _ _ _ _ tree slashless created written
  refine ⟨_, _, _, _, tree, created, written, hpath, hgains, ?_, ?_⟩
  · exact (apart _ _).mpr (.inr (by decide))
  · exact fun heq => absurd ((apart _ _).mp heq) (by decide)

end SnippetForge
