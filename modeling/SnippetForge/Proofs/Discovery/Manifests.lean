import SnippetForge.Proofs.Discovery.Failures

/-!
# What a list of imports resolves to

Imports are resolved one after the other, and each gives an entry, nothing or a failure. Without
dedupe the manifest is what all of them give, strung together; with dedupe an import is skipped if an
entry of its name is there already. Skipping changes nothing but the repeats: an import that is
skipped has been resolved before, so it can neither fail nor give anything new.

Both modes are therefore one collection of entries, from which the second drops every entry whose
name came earlier. That equation carries the results of this file. The first import that fails
decides the failure of either mode, imports that give nothing may be added or left out, and the two
modes differ only in the repeats.
-/

namespace SnippetForge.Discovery

variable {d : Disk} {cwd : Place} {root : Path}

/-! ### Entries without repeats -/

/-- The entries whose names do not occur earlier, neither among the names given nor in the list. -/
def withoutRepeats : (earlier : List String) → List ManifestEntry → List ManifestEntry
  | _, [] => []
  | earlier, e :: rest =>
    if e.name ∈ earlier then withoutRepeats (earlier ++ [e.name]) rest
    else e :: withoutRepeats (earlier ++ [e.name]) rest

/-- The entries of a manifest out of those that all imports give. -/
def kept (dedupe : Bool) (entries : List ManifestEntry) : List ManifestEntry :=
  if dedupe then withoutRepeats [] entries else entries

/-- Leaving out repeats keeps the order. -/
lemma withoutRepeats_sublist (earlier : List String) (entries : List ManifestEntry) :
    (withoutRepeats earlier entries).Sublist entries := by
  induction entries generalizing earlier with
  | nil => exact List.Sublist.slnil
  | cons e rest ih =>
    rw [withoutRepeats]
    split
    · exact (ih _).cons e
    · exact (ih _).cons_cons e

/-- An entry is left if it is the first one of its name. -/
lemma mem_withoutRepeats_iff {earlier : List String} {entries : List ManifestEntry}
    {e : ManifestEntry} : e ∈ withoutRepeats earlier entries ↔
      e.name ∉ earlier ∧ entries.find? (·.name == e.name) = some e := by
  induction entries generalizing earlier with
  | nil => simp [withoutRepeats]
  | cons first rest ih =>
    rw [withoutRepeats, List.find?_cons]
    by_cases hsame : first.name = e.name
    · have hlater : e ∉ withoutRepeats (earlier ++ [first.name]) rest := by
        rw [ih]
        simp [hsame]
      rw [beq_iff_eq.mpr hsame]
      split
      · next hearlier =>
        rw [hsame] at hearlier
        simp [hlater, hearlier]
      · next hnot =>
        rw [hsame] at hnot
        simp [hlater, hnot, eq_comm]
    · have hne : e ≠ first := fun h => hsame (h ▸ rfl)
      have hbeq : (first.name == e.name) = false := by simpa using hsame
      rw [hbeq]
      split
      · rw [ih]
        simp [Ne.symm hsame]
      · rw [List.mem_cons, ih]
        simp [hne, Ne.symm hsame]

/-- No two entries that are left have the same name. -/
lemma nodup_withoutRepeats (earlier : List String) (entries : List ManifestEntry) :
    ((withoutRepeats earlier entries).map (·.name)).Nodup := by
  induction entries generalizing earlier with
  | nil => exact List.nodup_nil
  | cons e rest ih =>
    rw [withoutRepeats]
    split
    · exact ih _
    · rw [List.map_cons, List.nodup_cons]
      refine ⟨fun hmem => ?_, ih _⟩
      obtain ⟨e', he', hname⟩ := List.mem_map.mp hmem
      exact (mem_withoutRepeats_iff.mp he').1 (by simp [hname])

/-- Every name is still there. -/
lemma exists_mem_withoutRepeats {earlier : List String} {entries : List ManifestEntry}
    {e : ManifestEntry} (he : e ∈ entries) (hnew : e.name ∉ earlier) :
    ∃ e' ∈ withoutRepeats earlier entries, e'.name = e.name := by
  have hsome : (entries.find? (·.name == e.name)).isSome = true :=
    List.find?_isSome.mpr ⟨e, he, by simp⟩
  obtain ⟨e', hfind⟩ := Option.isSome_iff_exists.mp hsome
  have hname : e'.name = e.name := by simpa using List.find?_some hfind
  refine ⟨e', mem_withoutRepeats_iff.mpr ⟨hname ▸ hnew, ?_⟩, hname⟩
  rw [hname]
  exact hfind

/-! ### Both modes as one collection -/

/-- What an import adds to a manifest. -/
def entriesOf (d : Disk) (cwd : Place) (root : Path) (name : String) :
    Except Failure (List ManifestEntry) :=
  (resolveImport d cwd root name).2.map Option.toList

lemma entriesOf_eq_error_iff {name : String} {failure : Failure} :
    entriesOf d cwd root name = .error failure ↔
      (resolveImport d cwd root name).2 = .error failure := by
  unfold entriesOf
  cases (resolveImport d cwd root name).2 <;> simp [Except.map]

lemma entriesOf_eq_ok {name : String} {answer : Option ManifestEntry}
    (h : (resolveImport d cwd root name).2 = .ok answer) :
    entriesOf d cwd root name = .ok answer.toList := by
  rw [entriesOf, h]
  rfl

lemma exists_entriesOf_eq_ok_iff {name : String} :
    (∃ found, entriesOf d cwd root name = .ok found) ↔
      ∃ answer, (resolveImport d cwd root name).2 = .ok answer := by
  unfold entriesOf
  cases (resolveImport d cwd root name).2 <;> simp [Except.map]

/-- The entry of an import has its name. -/
lemma name_of_resolveImport {name : String} {e : ManifestEntry}
    (h : (resolveImport d cwd root name).2 = .ok (some e)) : e.name = name := by
  unfold resolveImport at h
  split at h
  · cases h
  · split at h
    · cases h
    · simp only [ManifestEntry.ofFiles?, Except.ok.injEq] at h
      split at h
      · cases h
      · cases h
        rfl

/-- An import that is not skipped comes before the rest. -/
lemma resolveNames_cons {settings : ResolverSettings} {name : String} {rest : List String}
    {found : List ManifestEntry}
    (h : (settings.dedupe && found.any (·.name == name)) = false) :
    (resolveNames d cwd settings (name :: rest) found).2 =
      match (resolveImport d cwd settings.packageRoot name).2 with
      | .error failure => .error failure
      | .ok answer => (resolveNames d cwd settings rest (answer.toList ++ found)).2 := by
  simp only [resolveNames, h, Bool.false_eq_true, if_false]
  obtain ⟨log, result⟩ := resolveImport d cwd settings.packageRoot name
  rcases result with failure | _ | e <;> rfl

/-- Without dedupe the entries of all imports are strung together. -/
lemma resolveNames_plain (names : List String) (found : List ManifestEntry) :
    (resolveNames d cwd ⟨root, false⟩ names found).2 =
      (collectAll (entriesOf d cwd root) names).map (found.reverse ++ ·) := by
  induction names generalizing found with
  | nil => simp [resolveNames, collectAll, Except.map]
  | cons name rest ih =>
    rw [resolveNames_cons rfl, collectAll, entriesOf]
    cases (resolveImport d cwd root name).2 with
    | error failure => rfl
    | ok answer =>
      simp only [ih, Except.map]
      cases collectAll (entriesOf d cwd root) rest with
      | error failure => rfl
      | ok more => cases answer <;> simp

/-- With dedupe the same entries are strung together, but for repeats. The entries found so far have
the names that came earlier, and each of these names resolves to an entry. -/
lemma resolveNames_dedupe (names : List String) {found : List ManifestEntry}
    {earlier : List String} (hearlier : ∀ n, n ∈ earlier ↔ ∃ e ∈ found, e.name = n)
    (hentry : ∀ n ∈ earlier, ∃ e, (resolveImport d cwd root n).2 = .ok (some e)) :
    (resolveNames d cwd ⟨root, true⟩ names found).2 =
      (collectAll (entriesOf d cwd root) names).map
        (found.reverse ++ withoutRepeats earlier ·) := by
  induction names generalizing found earlier with
  | nil => simp [resolveNames, collectAll, Except.map, withoutRepeats]
  | cons name rest ih =>
    by_cases hrepeat : name ∈ earlier
    · -- The import is skipped, and resolving it again would give an entry that is left out.
      have hskip : found.any (·.name == name) = true := by
        simpa using (hearlier name).mp hrepeat
      obtain ⟨e, he⟩ := hentry name hrepeat
      obtain rfl := name_of_resolveImport he
      have hmore : ∀ n, n ∈ earlier ++ [e.name] ↔ n ∈ earlier := by
        intro n
        simp only [List.mem_append, List.mem_singleton, or_iff_left_iff_imp]
        rintro rfl
        exact hrepeat
      have hrest := @ih found (earlier ++ [e.name]) (fun n => (hmore n).trans (hearlier n))
        fun n hn => hentry n ((hmore n).mp hn)
      rw [resolveNames, if_pos (by simpa using hskip), hrest, collectAll, entriesOf_eq_ok he]
      cases collectAll (entriesOf d cwd root) rest with
      | error failure => rfl
      | ok more => simp [Except.map, withoutRepeats, hrepeat]
    · have hnew : found.any (·.name == name) = false := by
        rw [Bool.eq_false_iff]
        intro hany
        exact hrepeat ((hearlier name).mpr (by simpa using hany))
      rw [resolveNames_cons (by simpa using hnew), collectAll, entriesOf]
      cases himport : (resolveImport d cwd root name).2 with
      | error failure => rfl
      | ok answer =>
        cases answer with
        | none =>
          simp only [Except.map, Option.toList, List.nil_append]
          rw [ih hearlier hentry]
          cases collectAll (entriesOf d cwd root) rest <;> rfl
        | some e =>
          obtain rfl := name_of_resolveImport himport
          have hrest := @ih (e :: found) (earlier ++ [e.name])
            (fun n => by simp [hearlier, or_comm, eq_comm])
            (fun n hn => by
              rcases List.mem_append.mp hn with hn | hn
              · exact hentry n hn
              · rw [List.mem_singleton.mp hn]
                exact ⟨e, himport⟩)
          simp only [Except.map, Option.toList, List.cons_append, List.nil_append]
          rw [hrest]
          cases collectAll (entriesOf d cwd root) rest with
          | error failure => rfl
          | ok more => simp [Except.map, withoutRepeats, hrepeat]

/-- Either mode keeps what it is to keep of the entries of all imports. -/
lemma resolve_eq (settings : ResolverSettings) (snippets : List Snippet) :
    (resolve d cwd settings snippets).2 =
      (collectAll (entriesOf d cwd settings.packageRoot) (snippets.flatMap (·.imports))).map
        (kept settings.dedupe) := by
  have hnames : (resolve d cwd settings snippets).2 =
      (resolveNames d cwd settings (snippets.flatMap (·.imports)) []).2 := by
    unfold resolve
    generalize resolveNames d cwd settings (snippets.flatMap (·.imports)) [] = outcome
    obtain ⟨log, failure | entries⟩ := outcome <;> rfl
  rw [hnames]
  obtain ⟨root, dedupe⟩ := settings
  cases dedupe with
  | false =>
    rw [resolveNames_plain]
    rfl
  | true =>
    rw [@resolveNames_dedupe d cwd root _ [] [] (by simp) (by simp)]
    rfl

/-- Imports that resolve to nothing may be added anywhere or left out. -/
lemma resolve_congr_of_silent {keep : String → Bool}
    (silent : ∀ n, keep n = false → (resolveImport d cwd root n).2 = .ok none) (dedupe : Bool)
    {snippets snippets' : List Snippet}
    (same : (snippets'.flatMap (·.imports)).filter keep =
      (snippets.flatMap (·.imports)).filter keep) :
    (resolve d cwd ⟨root, dedupe⟩ snippets').2 = (resolve d cwd ⟨root, dedupe⟩ snippets).2 := by
  have hfilter : ∀ names : List String, collectAll (entriesOf d cwd root) (names.filter keep) =
      collectAll (entriesOf d cwd root) names := by
    intro names
    induction names with
    | nil => rfl
    | cons name rest ih =>
      cases hkeep : keep name with
      | true => rw [List.filter_cons_of_pos hkeep, collectAll, collectAll, ih]
      | false =>
        rw [List.filter_cons_of_neg (by simp [hkeep]), collectAll,
          entriesOf_eq_ok (silent name hkeep), ih]
        cases collectAll (entriesOf d cwd root) rest <;> rfl
  rw [resolve_eq, resolve_eq, ← hfilter, same, hfilter]

/-! ### The first failure -/

/-- Resolving fails with the failure of the first import that fails. -/
lemma resolve_eq_error_iff {settings : ResolverSettings} {snippets : List Snippet}
    {failure : Failure} :
    (resolve d cwd settings snippets).2 = .error failure ↔
      ∃ before name, before ++ [name] <+: snippets.flatMap (·.imports) ∧
        (∀ n ∈ before, ∃ answer, (resolveImport d cwd settings.packageRoot n).2 = .ok answer) ∧
          (resolveImport d cwd settings.packageRoot name).2 = .error failure := by
  have hmap : (resolve d cwd settings snippets).2 = .error failure ↔
      collectAll (entriesOf d cwd settings.packageRoot) (snippets.flatMap (·.imports)) =
        .error failure := by
    rw [resolve_eq]
    cases collectAll (entriesOf d cwd settings.packageRoot) (snippets.flatMap (·.imports)) <;>
      simp [Except.map]
  simp only [hmap, collectAll_eq_error_iff, exists_entriesOf_eq_ok_iff, entriesOf_eq_error_iff]

lemma FailsWith.discovery {directory : Path} {failure : Failure}
    (h : FailsWith d cwd directory failure) : ∃ path fault, failure = .discovery path fault := by
  cases h with
  | listing _ => exact ⟨_, _, rfl⟩
  | declaration _ _ => exact ⟨_, _, rfl⟩
  | implementation _ _ _ => exact ⟨_, _, rfl⟩

/-- Packages of every kind: two with declarations, two with an implementation only, of which one is
no text, and one that cannot be listed. -/
def mixedPackages : Disk :=
  ⟨[(["lib"], ⟨.directory, 1, Mode.directory, 0⟩),
    (["lib", "typed"], ⟨.directory, 2, Mode.directory, 0⟩),
    (["lib", "typed", "index.d.ts"], ⟨.file "T".toUTF8, 3, Mode.file, 0⟩),
    (["lib", "small"], ⟨.directory, 4, Mode.directory, 0⟩),
    (["lib", "small", "s.d.ts"], ⟨.file "S".toUTF8, 5, Mode.file, 0⟩),
    (["lib", "plain"], ⟨.directory, 6, Mode.directory, 0⟩),
    (["lib", "plain", "index.js"], ⟨.file "42".toUTF8, 7, Mode.file, 0⟩),
    (["lib", "broken"], ⟨.directory, 8, Mode.directory, 0⟩),
    (["lib", "broken", "index.js"], ⟨.file ⟨#[255]⟩, 9, Mode.file, 0⟩),
    (["lib", "sealed"], ⟨.directory, 10, 0, 0⟩)], 11, 0⟩

/-- Dedupe leaves out the entries whose names came earlier, and nothing else. Both modes fail alike.
Where they succeed, order, first entries and names are those of the manifest with repeats. Imports
that resolve to nothing have no effect on either. -/
theorem resolve_dedupe (d : Disk) (cwd : Place) (root : Path) (snippets : List Snippet) :
    (∀ failure, (resolve d cwd ⟨root, true⟩ snippets).2 = .error failure ↔
      (resolve d cwd ⟨root, false⟩ snippets).2 = .error failure) ∧
    (∀ entries, (resolve d cwd ⟨root, false⟩ snippets).2 = .ok entries →
      ∃ firsts, (resolve d cwd ⟨root, true⟩ snippets).2 = .ok firsts ∧
        firsts = withoutRepeats [] entries ∧ firsts.Sublist entries ∧
        (∀ e ∈ firsts, entries.find? (·.name == e.name) = some e) ∧
        (firsts.map (·.name)).Nodup ∧ ∀ e ∈ entries, e.name ∈ firsts.map (·.name)) ∧
    ∀ keep : String → Bool, (∀ n, keep n = false → (resolveImport d cwd root n).2 = .ok none) →
      ∀ (dedupe : Bool) (snippets' : List Snippet),
        (snippets'.flatMap (·.imports)).filter keep =
            (snippets.flatMap (·.imports)).filter keep →
          (resolve d cwd ⟨root, dedupe⟩ snippets').2 =
            (resolve d cwd ⟨root, dedupe⟩ snippets).2 := by
  refine ⟨fun failure => ?_, fun entries h => ?_, fun keep silent dedupe snippets' same => ?_⟩
  · rw [resolve_eq_error_iff, resolve_eq_error_iff]
  · rw [resolve_eq] at h
    cases hfound : collectAll (entriesOf d cwd root) (snippets.flatMap (·.imports)) with
    | error failure =>
      rw [hfound] at h
      cases h
    | ok found =>
      rw [hfound] at h
      obtain rfl : found = entries := Except.ok.inj h
      refine ⟨withoutRepeats [] found, ?_, rfl, withoutRepeats_sublist _ _, fun e he => ?_,
        nodup_withoutRepeats _ _, fun e he => ?_⟩
      · rw [resolve_eq, hfound]
        rfl
      · exact (mem_withoutRepeats_iff.mp he).2
      · obtain ⟨e', he', hname⟩ := exists_mem_withoutRepeats he List.not_mem_nil
        exact List.mem_map.mpr ⟨e', he', hname⟩
  · exact resolve_congr_of_silent silent dedupe same

/-- Of four imports of two packages, dedupe leaves the first of each. -/
theorem resolve_dedupe_mixed :
    (resolve mixedPackages [] ⟨⟨"lib"⟩, false⟩
        [.ofImports ["typed", "plain", "typed"], .ofImports ["small", "typed"]]).2 =
      .ok [⟨"typed", "declare module 'typed' {
T
}", []⟩,
        ⟨"typed", "declare module 'typed' {
T
}", []⟩,
        ⟨"small", "declare module 'small' {
S
}", []⟩,
        ⟨"typed", "declare module 'typed' {
T
}", []⟩] ∧
      (resolve mixedPackages [] ⟨⟨"lib"⟩, true⟩
          [.ofImports ["typed", "plain", "typed"], .ofImports ["small", "typed"]]).2 =
        .ok [⟨"typed", "declare module 'typed' {
T
}", []⟩,
          ⟨"small", "declare module 'small' {
S
}", []⟩] := by
  have hplain : (resolve mixedPackages [] ⟨⟨"lib"⟩, false⟩
      [.ofImports ["typed", "plain", "typed"], .ofImports ["small", "typed"]]).2 =
      .ok [⟨"typed", "declare module 'typed' {
T
}", []⟩,
        ⟨"typed", "declare module 'typed' {
T
}", []⟩,
        ⟨"small", "declare module 'small' {
S
}", []⟩,
        ⟨"typed", "declare module 'typed' {
T
}", []⟩] := by decide +kernel
  obtain ⟨firsts, hfirsts, rfl, -⟩ := (resolve_dedupe mixedPackages [] ⟨"lib"⟩ _).2.1 _ hplain
  exact ⟨hplain, hfirsts⟩

/-! ### Imports without declarations -/

/-- An import all of whose directories can be listed and none of whose declaration files is seen
resolves to nothing exactly if all its implementation files can be read. Then it may be added to
any snippets without an effect. Otherwise the first one that cannot be read is its failure. -/
theorem resolveImport_undeclared (wf : d.WellFormed) {name : String} {directory : Path}
    (accepted : moduleDirectory? root name = some directory)
    (listed : ∀ dirs fault, ¬IsUnlisted d cwd directory dirs fault)
    (undeclared : ∀ rel, ¬IsSeen d cwd ".d.ts" directory rel) :
    ((resolveImport d cwd root name).2 = .ok none ↔
      ∀ rel fault, ¬IsUnread d cwd ".js" directory rel fault) ∧
    ((∀ rel fault, ¬IsUnread d cwd ".js" directory rel fault) →
      ∀ (dedupe : Bool) (snippets snippets' : List Snippet),
        (snippets'.flatMap (·.imports)).filter (· != name) =
            (snippets.flatMap (·.imports)).filter (· != name) →
          (resolve d cwd ⟨root, dedupe⟩ snippets').2 =
            (resolve d cwd ⟨root, dedupe⟩ snippets).2) ∧
    ∀ rel fault, IsFirst (IsUnread d cwd ".js" directory) rel fault →
      (resolveImport d cwd root name).2 = .error (.discovery (directory.descend rel) fault) := by
  have hunread : ∀ rel fault, ¬IsUnread d cwd ".d.ts" directory rel fault :=
    fun rel _ h => undeclared rel h.seen
  have hsilent : (resolveImport d cwd root name).2 = .ok none ↔
      ∀ rel fault, ¬IsUnread d cwd ".js" directory rel fault := by
    rw [resolveImport_of_accepted accepted]
    cases hfiles : moduleFiles d cwd directory with
    | ok files =>
      obtain ⟨-, -, himplemented, hnone⟩ := of_moduleFiles_eq_ok wf hfiles
      have hempty : files.1 = [] := hnone.mpr undeclared
      simp [Except.map, ManifestEntry.ofFiles?, hempty, himplemented]
    | error failure =>
      constructor
      · intro h
        cases h
      · intro himplemented
        cases failsWith_of_moduleFiles_eq_error wf hfiles with
        | listing first => exact absurd first.holds (listed _ _)
        | declaration _ first => exact absurd first.holds (hunread _ _)
        | implementation _ _ first => exact absurd first.holds (himplemented _ _)
  refine ⟨hsilent, fun himplemented dedupe snippets snippets' same => ?_, fun rel fault first => ?_⟩
  · refine @resolve_congr_of_silent d cwd root (· != name) (fun n hn => ?_) dedupe _ _ same
    obtain rfl : n = name := by simpa using hn
    exact hsilent.mpr himplemented
  · exact (resolveImport_eq_error_iff wf accepted).mpr (.implementation listed hunread first)

/-- The package whose implementation is a text resolves to nothing, and importing it has no effect. -/
theorem resolveImport_undeclared_plain :
    mixedPackages.WellFormed ∧
      moduleDirectory? ⟨"lib"⟩ "plain" = some ⟨"lib/plain"⟩ ∧
      (∀ dirs fault, ¬IsUnlisted mixedPackages [] ⟨"lib/plain"⟩ dirs fault) ∧
      (∀ rel, ¬IsSeen mixedPackages [] ".d.ts" ⟨"lib/plain"⟩ rel) ∧
      (resolveImport mixedPackages [] ⟨"lib"⟩ "plain").2 = .ok none ∧
      (resolve mixedPackages [] ⟨⟨"lib"⟩, true⟩ [.ofImports ["plain", "typed", "plain"]]).2 =
        (resolve mixedPackages [] ⟨⟨"lib"⟩, true⟩ [.ofImports ["typed"]]).2 := by
  have tree : mixedPackages.WellFormed := by decide +kernel
  have accepted : moduleDirectory? ⟨"lib"⟩ "plain" = some ⟨"lib/plain"⟩ := by decide +kernel
  have declarations : sources mixedPackages [] ".d.ts" ⟨"lib/plain"⟩ = .ok [] := by decide +kernel
  have impls : sources mixedPackages [] ".js" ⟨"lib/plain"⟩ = .ok [⟨"lib/plain/index.js", "42"⟩] := by
    decide +kernel
  obtain ⟨listed, -, hnone⟩ := of_sources_eq_ok tree declarations
  obtain ⟨-, readable, -⟩ := of_sources_eq_ok tree impls
  have undeclared := hnone.mp rfl
  obtain ⟨hsilent, hadd, -⟩ := resolveImport_undeclared tree accepted listed undeclared
  exact ⟨tree, accepted, listed, undeclared, hsilent.mpr readable,
    hadd readable true [.ofImports ["typed"]] [.ofImports ["plain", "typed", "plain"]] rfl⟩

/-- The package whose implementation is no text fails, although everything in it can be listed and
it has no declarations. -/
theorem resolveImport_undeclared_broken :
    mixedPackages.WellFormed ∧
      moduleDirectory? ⟨"lib"⟩ "broken" = some ⟨"lib/broken"⟩ ∧
      (∀ dirs fault, ¬IsUnlisted mixedPackages [] ⟨"lib/broken"⟩ dirs fault) ∧
      (∀ rel, ¬IsSeen mixedPackages [] ".d.ts" ⟨"lib/broken"⟩ rel) ∧
      (resolveImport mixedPackages [] ⟨"lib"⟩ "broken").2 ≠ .ok none ∧
      (resolve mixedPackages [] ⟨⟨"lib"⟩, false⟩ [.ofImports ["broken"]]).2 =
        .error (.discovery ⟨"lib/broken/index.js"⟩ .notText) := by
  have tree : mixedPackages.WellFormed := by decide +kernel
  have declarations : sources mixedPackages [] ".d.ts" ⟨"lib/broken"⟩ = .ok [] := by decide +kernel
  obtain ⟨listed, -, hnone⟩ := of_sources_eq_ok tree declarations
  exact ⟨tree, by decide +kernel, listed, hnone.mp rfl, by decide +kernel, by decide +kernel⟩

end SnippetForge.Discovery
