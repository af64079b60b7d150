import SnippetForge.Proofs.Staging.Hosts

/-!
# Entries of an area

An entry can be written more than once, over what was written before, and entries with different
extensions lie side by side in one area. `Records` says what an area then holds: the last source of
each extension and nothing else. Writing once more keeps this so, whether the file is new or not.
-/

namespace SnippetForge.StagingArea

open World

variable {w : World} {parent : Place} {random : String} {c c' : Content}
  {written : List (String × String)}

/-- What lies in an area are the sources that have been written there last for each extension. Each
is in a file of its own. `written` has all that has been written, the latest first. -/
structure Records (c : Content) (written : List (String × String)) : Prop where
  nodes : ∀ rel node, (c rel).map (·.node) = some node ↔
    ∃ extension source, written.lookup extension = some source ∧ rel = ["index." ++ extension] ∧
      node = .file source.toUTF8
  single : ∀ rel rel' e e', c rel = some e → c rel' = some e' → e.id = e'.id → rel = rel'

/-- Nothing has been written where nothing is. -/
lemma Records.nil (h : ∀ rel, c rel = none) : Records c [] := by
  constructor
  · intro rel node
    simp [h rel]
  · intro rel rel' e e' he
    rw [h rel] at he
    cases he

/-- A source that is put into a file of its own is what has been written last. -/
lemma Records.cons (h : Records c written) {extension source : String} {e : Entry}
    (hnode : e.node = .file source.toUTF8)
    (own : ∀ rel a, rel ≠ ["index." ++ extension] → c rel = some a → a.id ≠ e.id)
    (put : ∀ rel, c' rel = if rel = ["index." ++ extension] then some e else c rel) :
    Records c' ((extension, source) :: written) := by
  constructor
  · intro rel node
    rw [put rel]
    by_cases hrel : rel = ["index." ++ extension]
    · subst hrel
      rw [if_pos rfl, Option.map_some, hnode, Option.some.injEq]
      constructor
      · rintro rfl
        exact ⟨extension, source, by simp, rfl, rfl⟩
      · rintro ⟨other, text, hlast, hname, rfl⟩
        obtain rfl : extension = other := by simpa using hname
        have htext : source = text := by simpa using hlast
        rw [htext]
    · rw [if_neg hrel, h.nodes]
      have hlookup : ∀ other, rel = ["index." ++ other] →
          ((extension, source) :: written).lookup other = written.lookup other := by
        rintro other rfl
        have hne : (other == extension) = false := by
          rw [beq_eq_false_iff_ne]
          rintro rfl
          exact hrel rfl
        rw [List.lookup_cons, hne]
      constructor
      · rintro ⟨other, text, hlast, hname, hnode⟩
        exact ⟨other, text, (hlookup other hname).trans hlast, hname, hnode⟩
      · rintro ⟨other, text, hlast, hname, hnode⟩
        exact ⟨other, text, (hlookup other hname).symm.trans hlast, hname, hnode⟩
  · intro rel rel' a a' ha ha' hid
    rw [put] at ha ha'
    split at ha
    · next hrel =>
      cases ha
      split at ha'
      · next hrel' => rw [hrel, hrel']
      · next hrel' => exact absurd hid.symm (own rel' a' hrel' ha')
    · next hrel =>
      split at ha'
      · cases ha'
        exact absurd hid (own rel a hrel ha)
      · exact h.single rel rel' a a' ha ha' hid

/-- An entry that has been written before is written over in its file, if it is written at all. -/
lemma Hosts.writeEntry_over (h : Hosts w parent random) {x : EntryExtension}
    (hname : IsProper x.fileName) (hnul : Path.hasNul x.fileName = false) {e : Entry}
    {old : ByteArray} (he : w.disk.entry? (placeBelow parent random ++ [x.fileName]) = some e)
    (hfile : e.node = .file old) {source : String} {p : Path} {disk : Disk}
    (hwrite : (below parent random).writeEntry w.disk w.cwd x source = .ok (p, disk)) :
    disk = w.disk.rewrite e.id source.toUTF8 := by
  have hnode : w.disk.node? (placeBelow parent random ++ [x.fileName]) = some (.file old) :=
    Disk.node?_eq_some_iff.mpr ⟨e, he, hfile⟩
  have hproper : ∀ n ∈ [x.fileName], IsProper n := by simpa using hname
  have hclean : [x.fileName].any Path.hasNul = false := by simpa using hnul
  unfold writeEntry entryPath Disk.writeFile Disk.updateFile at hwrite
  have hchild : (below parent random).path.child x.fileName =
      (below parent random).path.descend [x.fileName] := rfl
  rw [hchild] at hwrite
  by_cases hlong : IsTooLong parent random [x.fileName]
  · simp [h.locate_of_isTooLong hproper hclean hlong] at hwrite
  have hlocate := h.locate_descend (List.cons_ne_nil _ _) hproper hclean hlong true w.cwd
  by_cases hbig : Disk.maxName < x.fileName.utf8ByteSize
  · rw [Disk.resolve_long hname.ne_current hname.ne_up hbig] at hlocate
    simp [hlocate] at hwrite
  have hsought : Disk.IsSought x.fileName := ⟨hname.ne_current, hname.ne_up, Nat.not_lt.mp hbig⟩
  rw [Disk.resolve_node hsought hnode rfl, Disk.resolve_nil] at hlocate
  simp only [hlocate, he, Disk.updateEntry, hfile] at hwrite
  split at hwrite
  · next disk' hupdate =>
    cases hwrite
    split at hupdate
    · cases hupdate
      rfl
    · cases hupdate
  · cases hwrite

/-- Whatever entry is written into an area, nothing but the area changes, and it is what has been
written last. -/
lemma Hosts.records_writeEntry (h : Hosts w parent random)
    (records : Records (contentOf w parent random) written) {tag source : String} {p : Path}
    {disk : Disk} (hwrite : (below parent random).writeEntry w.disk w.cwd (.ofTag tag) source =
      .ok (p, disk)) :
    Keeps parent random w (w.withDisk disk) ∧
      Records (contentOf (w.withDisk disk) parent random)
        (((EntryExtension.ofTag tag).extension, source) :: written) := by
  have hname := EntryExtension.isProper_fileName tag
  have hnul := EntryExtension.hasNul_fileName tag
  have hcontent : contentOf w parent random [(EntryExtension.ofTag tag).fileName] =
      w.disk.entry? (placeBelow parent random ++ [(EntryExtension.ofTag tag).fileName]) :=
    Disk.contentBelow_of_ne_nil (List.cons_ne_nil _ _)
  cases hold : contentOf w parent random [(EntryExtension.ofTag tag).fileName] with
  | none =>
    have hfree := hcontent.symm.trans hold
    by_cases refused : IsRefused parent random (EntryExtension.ofTag tag).fileName
    · rw [h.writeEntry_of_isRefused hname hnul hfree refused] at hwrite
      cases hwrite
    rw [h.writeEntry_of_not_isRefused hname hnul hfree refused] at hwrite
    cases hwrite
    have habove : w.disk.node? (placeBelow parent random ++ []) = some .directory := by
      rw [List.append_nil]
      exact h.node?_eq
    obtain ⟨hkeeps, hput⟩ := @Hosts.keeps_add _ _ _ h [] _ hfree habove hname
      (.file source.toUTF8) Mode.file
    refine ⟨hkeeps, records.cons rfl (fun rel a _ ha => ?_) hput⟩
    have hrel : rel ≠ [] := by
      rintro rfl
      cases ha
    exact (h.orderly.tree.id_lt ((Disk.contentBelow_of_ne_nil hrel).symm.trans ha)).ne
  | some e =>
    obtain ⟨-, text, -, -, hfile⟩ :=
      (records.nodes [(EntryExtension.ofTag tag).fileName] e.node).mp (by rw [hold]; rfl)
    obtain rfl := h.writeEntry_over hname hnul (hcontent.symm.trans hold) hfile hwrite
    obtain ⟨hkeeps, hput⟩ := h.keeps_rewrite hold hfile
      (fun rel a ha hid => records.single _ _ _ _ ha hold hid) source.toUTF8
    refine ⟨hkeeps, records.cons ?_ (fun rel a hne ha hid => ?_) hput⟩
    · rfl
    · exact hne (records.single _ _ _ _ ha hold hid)

end SnippetForge.StagingArea
