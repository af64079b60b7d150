import SnippetForge.Proofs.Discovery.Manifests

/-!
# Manifests of some snippets after others

Resolving goes through the snippets one after the other. What has been found in one of them is known
in the next, so with dedupe an import is skipped no matter which snippet has declared it first. The
manifest of some snippets followed by others is therefore put together from the manifests of both:
without dedupe it is one followed by the other, with dedupe the second one loses the entries whose
names are in the first one. Where both fail, the first failure counts.
-/

namespace SnippetForge.Discovery

variable {d : Disk} {cwd : Place}

/-! ### Collecting from two lists -/

/-- What is collected from two lists is collected from one after the other. -/
lemma collectAll_append {α β : Type} (step : α → Except Failure (List β)) (front back : List α) :
    collectAll step (front ++ back) =
      (collectAll step front).bind fun found => (collectAll step back).map (found ++ ·) := by
  induction front with
  | nil =>
    rw [List.nil_append, collectAll]
    cases collectAll step back <;> rfl
  | cons a rest ih =>
    rw [List.cons_append, collectAll, collectAll, ih]
    cases step a with
    | error failure => rfl
    | ok first =>
      cases collectAll step rest with
      | error failure => rfl
      | ok found =>
        cases collectAll step back with
        | error failure => rfl
        | ok more => exact congrArg Except.ok (List.append_assoc first found more).symm

/-! ### Repeats in two lists -/

/-- Entries that come after others have the names of those before them. -/
lemma withoutRepeats_append (earlier : List String) (front back : List ManifestEntry) :
    withoutRepeats earlier (front ++ back) =
      withoutRepeats earlier front ++ withoutRepeats (earlier ++ front.map (·.name)) back := by
  induction front generalizing earlier with
  | nil => simp [withoutRepeats]
  | cons e rest ih =>
    have hrest := ih (earlier ++ [e.name])
    rw [List.append_assoc, List.singleton_append] at hrest
    rw [List.cons_append, withoutRepeats, withoutRepeats, hrest, List.map_cons]
    split
    · rfl
    · rfl

/-- Names that came earlier only take entries away. -/
lemma withoutRepeats_eq_filter {names earlier both : List String}
    (hboth : ∀ n, n ∈ both ↔ n ∈ earlier ∨ n ∈ names) (entries : List ManifestEntry) :
    withoutRepeats both entries =
      (withoutRepeats earlier entries).filter fun e => decide (e.name ∉ names) := by
  induction entries generalizing earlier both with
  | nil => rfl
  | cons e rest ih =>
    have hrest := @ih (earlier ++ [e.name]) (both ++ [e.name]) fun n => by
      simp only [List.mem_append, hboth]
      tauto
    rw [withoutRepeats, withoutRepeats, hrest]
    by_cases hearlier : e.name ∈ earlier
    · rw [if_pos hearlier, if_pos ((hboth _).mpr (.inl hearlier))]
    · rw [if_neg hearlier]
      by_cases hnames : e.name ∈ names
      · rw [if_pos ((hboth _).mpr (.inr hnames)), List.filter_cons_of_neg (by simpa using hnames)]
      · rw [if_neg (by simp [hboth, hearlier, hnames]),
          List.filter_cons_of_pos (by simpa using hnames)]

/-- Leaving out repeats leaves all names. -/
lemma mem_names_withoutRepeats_iff {entries : List ManifestEntry} {name : String} :
    name ∈ (withoutRepeats [] entries).map (·.name) ↔ name ∈ entries.map (·.name) := by
  constructor
  · intro h
    obtain ⟨e, he, rfl⟩ := List.mem_map.mp h
    exact List.mem_map_of_mem ((withoutRepeats_sublist [] entries).subset he)
  · intro h
    obtain ⟨e, he, rfl⟩ := List.mem_map.mp h
    obtain ⟨first, hfirst, hname⟩ := exists_mem_withoutRepeats he List.not_mem_nil
    exact List.mem_map.mpr ⟨first, hfirst, hname⟩

/-! ### Manifests of two lists -/

/-- One manifest after another. With dedupe the second one loses what the first one has. -/
def followedBy (dedupe : Bool) (front back : List ManifestEntry) : List ManifestEntry :=
  front ++ if dedupe then back.filter fun e => decide (e.name ∉ front.map (·.name)) else back

/-- What is kept of two lists of entries is put together from what is kept of both. -/
lemma kept_append (dedupe : Bool) (front back : List ManifestEntry) :
    kept dedupe (front ++ back) = followedBy dedupe (kept dedupe front) (kept dedupe back) := by
  cases dedupe with
  | false => rfl
  | true =>
    have hnames : ∀ n, n ∈ front.map (·.name) ↔
        n ∈ [] ∨ n ∈ (withoutRepeats [] front).map (·.name) := by
      intro n
      rw [mem_names_withoutRepeats_iff]
      simp
    simp only [kept, followedBy, if_true]
    rw [withoutRepeats_append, List.nil_append, withoutRepeats_eq_filter hnames]

/-- Snippets that come after others give the manifest of both, or the first failure. -/
lemma resolve_append (settings : ResolverSettings) (front back : List Snippet) :
    (resolve d cwd settings (front ++ back)).2 =
      (resolve d cwd settings front).2.bind fun first =>
        (resolve d cwd settings back).2.map (followedBy settings.dedupe first) := by
  rw [resolve_eq, resolve_eq, resolve_eq, List.flatMap_append, collectAll_append]
  cases collectAll (entriesOf d cwd settings.packageRoot) (front.flatMap (·.imports)) with
  | error failure => rfl
  | ok found =>
    cases collectAll (entriesOf d cwd settings.packageRoot) (back.flatMap (·.imports)) with
    | error failure => rfl
    | ok more => exact congrArg Except.ok (kept_append settings.dedupe found more)

/-! ### One snippet after the other -/

/-- Resolves snippets one after the other, the first of them with the entries that have been found
before, last first. -/
def resolveInTurn (d : Disk) (cwd : Place) (settings : ResolverSettings) :
    List Snippet → (found : List ManifestEntry) → Except Failure (List ManifestEntry)
  | [], found => .ok found.reverse
  | snippet :: rest, found =>
    match (resolveNames d cwd settings snippet.imports found).2 with
    | .error failure => .error failure
    | .ok entries => resolveInTurn d cwd settings rest entries.reverse

/-- Names that come after others are resolved with what these have given. -/
lemma resolveNames_append (settings : ResolverSettings) (front back : List String)
    (found : List ManifestEntry) :
    (resolveNames d cwd settings (front ++ back) found).2 =
      match (resolveNames d cwd settings front found).2 with
      | .error failure => .error failure
      | .ok entries => (resolveNames d cwd settings back entries.reverse).2 := by
  induction front generalizing found with
  | nil => simp [resolveNames]
  | cons name rest ih =>
    cases hskip : settings.dedupe && found.any (·.name == name) with
    | true =>
      rw [List.cons_append, resolveNames, resolveNames, if_pos hskip, if_pos hskip]
      exact ih found
    | false =>
      rw [List.cons_append, resolveNames_cons hskip, resolveNames_cons hskip]
      cases (resolveImport d cwd settings.packageRoot name).2 with
      | error failure => rfl
      | ok answer => exact ih (answer.toList ++ found)

/-- All imports in a row are resolved like those of one snippet after the other, as long as what has
been found in one is known in the next. -/
lemma resolveNames_flatMap (settings : ResolverSettings) (snippets : List Snippet)
    (found : List ManifestEntry) :
    (resolveNames d cwd settings (snippets.flatMap (·.imports)) found).2 =
      resolveInTurn d cwd settings snippets found := by
  induction snippets generalizing found with
  | nil => rfl
  | cons snippet rest ih =>
    rw [List.flatMap_cons, resolveNames_append, resolveInTurn]
    cases (resolveNames d cwd settings snippet.imports found).2 with
    | error failure => rfl
    | ok entries => exact ih entries.reverse

lemma resolve_eq_resolveInTurn (settings : ResolverSettings) (snippets : List Snippet) :
    (resolve d cwd settings snippets).2 = resolveInTurn d cwd settings snippets [] := by
  rw [← resolveNames_flatMap, resolve]
  generalize resolveNames d cwd settings (snippets.flatMap (·.imports)) [] = outcome
  obtain ⟨log, failure | entries⟩ := outcome <;> rfl

end SnippetForge.Discovery
