import SnippetForge.Proofs.Discovery.Manifests
import SnippetForge.Proofs.Discovery.Questions
import SnippetForge.Proofs.Disk.Components
import SnippetForge.Proofs.Disk.Sharing

/-!
# Imports stay below the package root

The name of an import is checked by its components and used by its spelling. A name that passes is a
plain path: joined to the package root it goes down from there, and so does everything that discovery
asks about on the way. A disk is therefore asked only about what lies below the package root.

The consequence is a statement on two disks. If they hold the same packages, without links among
them, the same imports resolve to the same entries or fail alike, whatever else the disks hold and by
whatever links the package root is reached.
-/

namespace SnippetForge.Discovery

variable {d d' : Disk} {cwd cwd' : Place} {root directory : Path} {name : String}

/-! ### Names of packages -/

lemma moduleDirectory?_eq_some_iff :
    moduleDirectory? root name = some directory ↔
      (name ≠ "" ∧ (Path.mk name).isPlain = true) ∧ root.join ⟨name⟩ = directory := by
  simp only [moduleDirectory?, Option.ite_none_right_eq_some, Option.some.injEq]

/-- A name is refused if it is empty or absolute, starts in the current directory or leads up. -/
lemma moduleDirectory?_eq_none_iff :
    moduleDirectory? root name = none ↔
      name = "" ∨ "/".toList <+: name.toList ∨ name = "." ∨ "./".toList <+: name.toList ∨
        ".." ∈ (Path.mk name).segments := by
  have hplain := Path.isPlain_iff ⟨name⟩
  have habs := Path.isAbsolute_iff ⟨name⟩
  have hcurrent := Path.head?_segments_eq_current_iff name
  simp only [moduleDirectory?, ite_eq_right_iff, reduceCtorEq, imp_false, hplain, ← habs,
    ← or_assoc (a := name = "."), ← hcurrent]
  cases (Path.mk name).isAbsolute <;> grind

/-! ### The package root -/

/-- The package root leads to a directory. What is seen from an empty root is seen from the working
directory. -/
def IsPackagePlace (d : Disk) (cwd : Place) (root : Path) (place : Place) : Prop :=
  d.locate cwd true (if root.text = "" then ⟨"."⟩ else root) = .ok (.taken place .directory)

/-- The names of the package root lead to its place. -/
lemma IsPackagePlace.arrives {place : Place} (h : IsPackagePlace d cwd root place) :
    ∃ used left, Disk.maxLinks = used + left ∧
      Disk.Arrives d used (Disk.startOf cwd root) .directory root.names place .directory := by
  unfold IsPackagePlace at h
  by_cases hempty : root.text = ""
  · rw [if_pos hempty] at h
    obtain ⟨-, hresolve⟩ := Disk.locate_eq_ok_iff.mp h
    have hnames : Disk.walkNames ⟨"."⟩ = ["."] := by decide
    rw [hnames, Disk.resolve_current, Disk.resolve_nil] at hresolve
    cases hresolve
    obtain ⟨text⟩ := root
    obtain rfl : text = "" := hempty
    exact ⟨0, Disk.maxLinks, (Nat.zero_add _).symm, .here⟩
  · rw [if_neg hempty] at h
    exact Disk.exists_arrives_names h

/-! ### Paths below the package root -/

/-- What is below a package is seen from where the package root is seen from. -/
lemma startOf_descend (plain : (Path.mk name).isPlain = true) (hne : name ≠ "") {rel : Place}
    (hrel : ∀ n ∈ rel, IsProper n) :
    Disk.startOf cwd ((root.join ⟨name⟩).descend rel) = Disk.startOf cwd root := by
  have hrelative := Path.not_isAbsolute_of_isPlain plain
  have hjoin : (root.join ⟨name⟩).isAbsolute = root.isAbsolute := by
    by_cases hempty : root.text = ""
    · obtain ⟨text⟩ := root
      obtain rfl : text = "" := hempty
      rcases Path.segments_join ⟨""⟩ hrelative with ⟨-, hjoin⟩ | ⟨hne', -⟩
      · rw [hjoin, hrelative]
        rfl
      · exact absurd rfl hne'
    · exact Path.isAbsolute_join hrelative hempty
  have htext := root.text_join_ne_empty hrelative hne
  rw [Disk.startOf, Disk.startOf, Path.isAbsolute_descend_eq hrel htext, hjoin]

/-- What is below a package is walked along the names of the package root and others that do not
lead up. -/
lemma exists_walkNames_descend (plain : (Path.mk name).isPlain = true) {rel : Place}
    (hrel : ∀ n ∈ rel, IsProper n) :
    ∃ more, Disk.walkNames ((root.join ⟨name⟩).descend rel) = root.names ++ more ∧ ".." ∉ more := by
  have hnames := Path.names_join root (Path.not_isAbsolute_of_isPlain plain)
  have hup := Path.up_notMem_names plain
  by_cases hnil : rel = []
  · subst hnil
    obtain ⟨rest, hrest, hwalk⟩ := (root.join ⟨name⟩).exists_walkNames
    refine ⟨(Path.mk name).names ++ rest, ?_, ?_⟩
    · rw [← List.append_assoc, ← hnames]
      exact hwalk
    · rcases hrest with rfl | rfl <;> simp [hup]
  · refine ⟨(Path.mk name).names ++ rel, ?_, ?_⟩
    · rw [Path.walkNames_descend _ hrel hnil, hnames, List.append_assoc]
    · intro h
      rcases List.mem_append.mp h with h | h
      · exact hup h
      · exact (hrel _ h).ne_up rfl

/-- A package is a directory only if the package root is one. -/
lemma exists_isPackagePlace (accepted : moduleDirectory? root name = some directory)
    (h : d.isDirectory cwd directory = true) : ∃ place, IsPackagePlace d cwd root place := by
  obtain ⟨⟨hne, plain⟩, rfl⟩ := moduleDirectory?_eq_some_iff.mp accepted
  have hrelative := Path.not_isAbsolute_of_isPlain plain
  unfold IsPackagePlace
  by_cases hempty : root.text = ""
  · rw [if_pos hempty]
    exact ⟨cwd, Disk.locate_of_arrives (by constructor <;> decide) (Nat.zero_add _).symm
      (.current .here)⟩
  · rw [if_neg hempty]
    obtain ⟨q, hq⟩ := isDirectory_eq_true_iff.mp h
    obtain ⟨used, left, hlinks, harr⟩ := Disk.exists_arrives_names hq
    have hstart : Disk.startOf cwd (root.join ⟨name⟩) = Disk.startOf cwd root := by
      rw [Disk.startOf, Disk.startOf, Path.isAbsolute_join hrelative hempty]
    have hresolve := harr.resolve_eq (hlinks ▸ Nat.le_add_right used left)
    rw [hstart, Path.names_join root hrelative] at hresolve
    obtain ⟨used', left', place, node, hlinks', harr', hend⟩ :=
      Disk.exists_arrives (fun _ => ⟨rfl, _, _, rfl⟩) hresolve
    obtain ⟨first, rest, hnames⟩ := List.exists_cons_of_ne_nil (Path.names_ne_nil plain hne)
    rw [hnames] at hend
    have hnode : node = .directory := by
      by_contra hnode
      rw [Disk.resolve_blocked hnode] at hend
      cases hend
    subst hnode
    exact ⟨place, Disk.locate_of_arrives ((Disk.isSound_of_locate hq).of_join hrelative hempty)
      hlinks' harr'⟩

/-! ### The same packages -/

/-- Two disks have the same packages: they share the tree at the package root, or the package root is
no directory on either. -/
inductive SamePackages (d d' : Disk) (cwd cwd' : Place) (root : Path) : Prop
  | shared {place place' : Place} (hplace : IsPackagePlace d cwd root place)
      (hplace' : IsPackagePlace d' cwd' root place') (tree : Disk.SharesTree d d' place place')
  | missing (h : ∀ place, ¬IsPackagePlace d cwd root place)
      (h' : ∀ place, ¬IsPackagePlace d' cwd' root place)

/-- What is asked below a package is answered alike if the packages are the same. -/
lemma answer_eq_of_isBelow (wf : d.WellFormed) (wf' : d'.WellFormed) {place place' : Place}
    (hplace : IsPackagePlace d cwd root place) (hplace' : IsPackagePlace d' cwd' root place')
    (tree : Disk.SharesTree d d' place place')
    (accepted : moduleDirectory? root name = some directory) {q : Question}
    (h : IsBelow directory q) : q.answer d' cwd' = q.answer d cwd := by
  obtain ⟨⟨hne, plain⟩, rfl⟩ := moduleDirectory?_eq_some_iff.mp accepted
  obtain ⟨rel, hrel, -, hpath⟩ := h
  have hproper : ∀ n ∈ rel, IsProper n := fun n hn => (hrel n hn).1
  obtain ⟨more, hwalk, hup⟩ := @exists_walkNames_descend root _ plain _ hproper
  obtain ⟨used, left, hlinks, harr⟩ := hplace.arrives
  obtain ⟨used', left', hlinks', harr'⟩ := hplace'.arrives
  have alike : Disk.LeadsAlike d d' place place' cwd cwd' q.path := by
    rw [hpath]
    refine tree.leadsAlike hwalk hup hlinks hlinks' ?_ ?_
    · rw [startOf_descend plain hne hproper]
      exact harr
    · rw [startOf_descend plain hne hproper]
      exact harr'
  cases q with
  | isDirectory p => exact alike.isDirectory_eq
  | list p => exact alike.list_eq tree wf wf'
  | isFile p => exact alike.isFile_eq
  | read p => exact alike.readText_eq tree

/-- An import whose directory is missing has no files. -/
lemma resolveImport_of_missing (accepted : moduleDirectory? root name = some directory)
    (h : d.isDirectory cwd directory = false) :
    resolveImport d cwd root name = ([importLine name [] []], .ok none) := by
  have hsources : ∀ suffix, sources d cwd suffix directory = .ok [] := by
    intro suffix
    simp [sources, findFiles, h, readSources, collectAll]
  simp [resolveImport, accepted, moduleFiles, hsources, ManifestEntry.ofFiles?]

namespace SamePackages

/-- An import resolves alike if the packages are the same. -/
lemma resolveImport_eq (same : SamePackages d d' cwd cwd' root) (wf : d.WellFormed)
    (wf' : d'.WellFormed) (name : String) :
    resolveImport d' cwd' root name = resolveImport d cwd root name := by
  cases accepted : moduleDirectory? root name with
  | none => simp only [resolveImport, accepted]
  | some directory =>
    cases same with
    | missing h h' =>
      have hmissing : d.isDirectory cwd directory = false := by
        by_contra hdirectory
        obtain ⟨place, hplace⟩ := exists_isPackagePlace accepted (by simpa using hdirectory)
        exact h place hplace
      have hmissing' : d'.isDirectory cwd' directory = false := by
        by_contra hdirectory
        obtain ⟨place, hplace⟩ := exists_isPackagePlace accepted (by simpa using hdirectory)
        exact h' place hplace
      rw [resolveImport_of_missing accepted hmissing, resolveImport_of_missing accepted hmissing']
    | shared hplace hplace' tree =>
      -- One bound on the depth of walks does for both disks.
      have hfuel : depth d < max (depth d) (depth d') + 1 := by omega
      have hfuel' : depth d' < max (depth d) (depth d') + 1 := by omega
      rw [← Inquiry.run_ofImport wf hfuel, ← Inquiry.run_ofImport wf' hfuel']
      exact Inquiry.run_congr fun q hq => answer_eq_of_isBelow wf wf' hplace hplace' tree accepted
        (Inquiry.isBelow_of_asked_ofImport wf accepted q hq)

lemma resolveNames_eq (same : SamePackages d d' cwd cwd' root) (wf : d.WellFormed)
    (wf' : d'.WellFormed) (dedupe : Bool) (names : List String) (found : List ManifestEntry) :
    resolveNames d' cwd' ⟨root, dedupe⟩ names found =
      resolveNames d cwd ⟨root, dedupe⟩ names found := by
  induction names generalizing found with
  | nil => rfl
  | cons name rest ih => simp only [resolveNames, same.resolveImport_eq wf wf', ih]

/-- All imports of all snippets resolve alike if the packages are the same. -/
lemma resolve_eq (same : SamePackages d d' cwd cwd' root) (wf : d.WellFormed)
    (wf' : d'.WellFormed) (dedupe : Bool) (snippets : List Snippet) :
    resolve d' cwd' ⟨root, dedupe⟩ snippets = resolve d cwd ⟨root, dedupe⟩ snippets := by
  rw [resolve, resolve, same.resolveNames_eq wf wf']

end SamePackages

/-! ### Staying below the package root -/

lemma isHidden_eq_false_iff (n : String) : isHidden n = false ↔ ¬".".toList <+: n.toList := by
  unfold isHidden
  cases n.toList with
  | nil => simp
  | cons c rest =>
    by_cases hc : c = '.'
    · subst hc
      simp [List.cons_prefix_cons]
    · simp [List.cons_prefix_cons, hc, Ne.symm hc]

/-- What is below a package has the components of the package root, of the package and of the names
that lead there. -/
lemma components_of_isBelow (accepted : moduleDirectory? root name = some directory) {q : Question}
    (h : IsBelow directory q) :
    ∃ rel : List String, (∀ n ∈ rel, isHidden n = false) ∧ (q.isAboutFile = true → rel ≠ []) ∧
      q.path.components = root.components ++ (Path.mk name).components ++ rel.map .name := by
  obtain ⟨⟨-, plain⟩, rfl⟩ := moduleDirectory?_eq_some_iff.mp accepted
  obtain ⟨rel, hrel, hfile, hpath⟩ := h
  refine ⟨rel, fun n hn => (hrel n hn).2, hfile, ?_⟩
  rw [hpath, Path.components_descend _ fun n hn => (hrel n hn).1, Path.components_join root plain]

/-- The packages of `mixedPackages` in another directory, to which the package root is a link, and a
file that no import is to see. -/
def movedPackages : Disk :=
  ⟨[(["secret.d.ts"], ⟨.file "K".toUTF8, 1, Mode.file, 0⟩),
    (["lib"], ⟨.link ⟨"store/all"⟩, 2, Mode.unrestricted, 0⟩),
    (["store"], ⟨.directory, 3, Mode.directory, 0⟩),
    (["store", "all"], ⟨.directory, 4, Mode.directory, 0⟩),
    (["store", "all", "sealed"], ⟨.directory, 5, 0, 0⟩),
    (["store", "all", "broken"], ⟨.directory, 6, Mode.directory, 0⟩),
    (["store", "all", "broken", "index.js"], ⟨.file ⟨#[255]⟩, 7, Mode.file, 0⟩),
    (["store", "all", "plain"], ⟨.directory, 8, Mode.directory, 0⟩),
    (["store", "all", "plain", "index.js"], ⟨.file "42".toUTF8, 9, Mode.file, 0⟩),
    (["store", "all", "small"], ⟨.directory, 10, Mode.directory, 0⟩),
    (["store", "all", "small", "s.d.ts"], ⟨.file "S".toUTF8, 11, Mode.file, 0⟩),
    (["store", "all", "typed"], ⟨.directory, 12, Mode.directory, 0⟩),
    (["store", "all", "typed", "index.d.ts"], ⟨.file "T".toUTF8, 13, Mode.file, 0⟩)], 14, 0⟩

/-- Imports cannot leave the package root. A name has no directory exactly if it is empty or
absolute, starts in the current directory or leads up. Any other name means at least one entry, and
nothing is listed, tested, read or reported for it but what is below that entry of the package root.
What the imports of snippets resolve to depends on nothing else: two disks that have the same
packages, without links, give the same. -/
theorem imports_stay_below_root (root : Path) :
    (∀ name, moduleDirectory? root name = none ↔
      name = "" ∨ "/".toList <+: name.toList ∨ name = "." ∨ "./".toList <+: name.toList ∨
        ".." ∈ (Path.mk name).segments) ∧
    (∀ name directory, moduleDirectory? root name = some directory →
      ∃ entries : List String, entries ≠ [] ∧ (Path.mk name).components = entries.map .name ∧
        (∀ n ∈ entries, n ≠ "." ∧ n ≠ "..") ∧
        ∀ d : Disk, d.WellFormed → ∀ (cwd : Place) (fuel : Nat), depth d < fuel →
          (Inquiry.ofImport fuel root name).run d cwd = resolveImport d cwd root name ∧
          (∀ q ∈ (Inquiry.ofImport fuel root name).asked d cwd,
            ∃ rel : List String, (∀ n ∈ rel, ¬".".toList <+: n.toList) ∧
              (q.isAboutFile = true → rel ≠ []) ∧
              q.path.components = root.components ++ (entries ++ rel).map .name) ∧
          (∀ entry, (resolveImport d cwd root name).2 = .ok (some entry) → ∀ f ∈ entry.impls,
            .read ⟨f.filename⟩ ∈ (Inquiry.ofImport fuel root name).asked d cwd) ∧
          ∀ failure, (resolveImport d cwd root name).2 = .error failure →
            ∀ p ∈ failurePaths failure,
              .list p ∈ (Inquiry.ofImport fuel root name).asked d cwd ∨
                .read p ∈ (Inquiry.ofImport fuel root name).asked d cwd) ∧
    ∀ d d' : Disk, d.WellFormed → d'.WellFormed → ∀ cwd cwd' : Place,
      SamePackages d d' cwd cwd' root → ∀ (dedupe : Bool) (snippets : List Snippet),
        resolve d' cwd' ⟨root, dedupe⟩ snippets = resolve d cwd ⟨root, dedupe⟩ snippets := by
  refine ⟨fun name => moduleDirectory?_eq_none_iff, fun name directory accepted => ?_, ?_⟩
  · obtain ⟨⟨hne, plain⟩, -⟩ := moduleDirectory?_eq_some_iff.mp accepted
    have hcomponents := Path.components_of_isPlain plain
    refine ⟨(Path.mk name).entryNames, Path.entryNames_ne_nil plain hne, hcomponents,
      fun n hn => Path.ne_of_mem_entryNames plain hn, fun d wf cwd fuel hfuel => ?_⟩
    refine ⟨Inquiry.run_ofImport wf hfuel root name, fun q hq => ?_,
      reports_of_resolveImport wf hfuel accepted⟩
    obtain ⟨rel, hshown, hfile, hpath⟩ := components_of_isBelow accepted
      (Inquiry.isBelow_of_asked_ofImport wf accepted q hq)
    refine ⟨rel, fun n hn => (isHidden_eq_false_iff n).mp (hshown n hn), hfile, ?_⟩
    rw [hpath, hcomponents, List.map_append, List.append_assoc]
  · exact fun d d' wf wf' cwd cwd' same => same.resolve_eq wf wf'

/-- By way of a link the same packages resolve to the same. All that is asked for the broken one is
in its own directory, and the file that its failure names is among it. -/
theorem imports_stay_below_root_linked :
    mixedPackages.WellFormed ∧ movedPackages.WellFormed ∧
      SamePackages mixedPackages movedPackages [] [] ⟨"lib"⟩ ∧
      moduleDirectory? ⟨"lib"⟩ "broken" = some ⟨"lib/broken"⟩ ∧
      (∀ q ∈ (Inquiry.ofImport 5 ⟨"lib"⟩ "broken").asked movedPackages [],
        [.name "lib", .name "broken"] <+: q.path.components) ∧
      (.list ⟨"lib/broken/index.js"⟩ ∈
          (Inquiry.ofImport 5 ⟨"lib"⟩ "broken").asked movedPackages [] ∨
        .read ⟨"lib/broken/index.js"⟩ ∈
          (Inquiry.ofImport 5 ⟨"lib"⟩ "broken").asked movedPackages []) ∧
      (resolve movedPackages [] ⟨⟨"lib"⟩, true⟩ [.ofImports ["typed", "../secret", "small"]]).2 =
        .ok [⟨"typed", "declare module 'typed' {
T
}", []⟩,
          ⟨"small", "declare module 'small' {
S
}", []⟩] := by
  have tree : mixedPackages.WellFormed := by decide +kernel
  have tree' : movedPackages.WellFormed := by decide +kernel
  have shared : Disk.SharesTree mixedPackages movedPackages ["lib"] ["store", "all"] :=
    .of_entries (by simp) (by simp) (by decide +kernel) (by decide +kernel)
  have hplace : IsPackagePlace mixedPackages [] ⟨"lib"⟩ ["lib"] :=
    Disk.locateNode_eq_ok_iff.mp (by decide +kernel)
  have hplace' : IsPackagePlace movedPackages [] ⟨"lib"⟩ ["store", "all"] :=
    Disk.locateNode_eq_ok_iff.mp (by decide +kernel)
  have same : SamePackages mixedPackages movedPackages [] [] ⟨"lib"⟩ :=
    .shared hplace hplace' shared
  have accepted : moduleDirectory? ⟨"lib"⟩ "broken" = some ⟨"lib/broken"⟩ := by decide +kernel
  have fails : (resolveImport movedPackages [] ⟨"lib"⟩ "broken").2 =
      .error (.discovery ⟨"lib/broken/index.js"⟩ .notText) := by decide +kernel
  have resolved : (resolve mixedPackages [] ⟨⟨"lib"⟩, true⟩
      [.ofImports ["typed", "../secret", "small"]]).2 =
        .ok [⟨"typed", "declare module 'typed' {
T
}", []⟩,
          ⟨"small", "declare module 'small' {
S
}", []⟩] := by decide +kernel
  obtain ⟨-, haccepted, hsame⟩ := imports_stay_below_root ⟨"lib"⟩
  obtain ⟨entries, -, hentries, -, hasked⟩ := haccepted _ _ accepted
  obtain ⟨-, hbelow, -, hreported⟩ := hasked movedPackages tree' [] 5 (by decide +kernel)
  refine ⟨tree, tree', same, accepted, fun q hq => ?_, hreported _ fails _ (by decide +kernel), ?_⟩
  · obtain ⟨rel, -, -, hpath⟩ := hbelow q hq
    have hname : (Path.mk "broken").components = [.name "broken"] := by decide +kernel
    have hroot : (Path.mk "lib").components = [.name "lib"] := by decide +kernel
    rw [hpath, List.map_append, ← hentries, hname, hroot]
    exact List.prefix_append _ _
  · rw [hsame _ _ tree tree' [] [] same]
    exact resolved

end SnippetForge.Discovery
