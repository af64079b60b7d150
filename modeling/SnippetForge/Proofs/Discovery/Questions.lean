import SnippetForge.Proofs.Discovery.Inquiry

/-!
# Where discovery asks

Every question that the inquiry of an import asks is about the directory of the import or about
something below it, and on the way there no name is hidden. What an import reports, the names of its
implementation files and the paths of a failure, it has asked about before.
-/

namespace SnippetForge.Discovery

variable {d : Disk} {cwd : Place}

/-! ### Where it asks -/

/-- A question is about a directory or about something that is below it by names that are not
hidden. A file is never the directory itself. -/
def IsBelow (directory : Path) (q : Question) : Prop :=
  ∃ rel : Place, (∀ n ∈ rel, IsProper n ∧ isHidden n = false) ∧
    (q.isAboutFile = true → rel ≠ []) ∧ q.path = directory.descend rel

lemma IsBelow.of_directory {directory : Path} {q : Question} (hpath : q.path = directory)
    (hfile : q.isAboutFile = false) : IsBelow directory q :=
  ⟨[], by simp, by simp [hfile], hpath⟩

lemma IsBelow.of_child {directory : Path} {name : String} (hname : IsProper name)
    (hshown : isHidden name = false) {q : Question} (h : IsBelow (directory.child name) q) :
    IsBelow directory q := by
  obtain ⟨rel, hrel, -, hpath⟩ := h
  refine ⟨name :: rel, fun n hn => ?_, fun _ => List.cons_ne_nil _ _, hpath⟩
  rcases List.mem_cons.mp hn with rfl | hn
  · exact ⟨hname, hshown⟩
  · exact hrel n hn

/-- What is below a directory stays so when it is read. -/
lemma IsBelow.read_of_isFile {directory p : Path} (h : IsBelow directory (.isFile p)) :
    IsBelow directory (.read p) := h

/-- The paths that a fault names. -/
def faultPaths : Fault → List Path
  | .at p fault => p :: faultPaths fault
  | .onEntry p fault => p :: faultPaths fault
  | _ => []

/-- The paths that a failure names. -/
def failurePaths : Failure → List Path
  | .discovery p fault => p :: faultPaths fault
  | .staging p fault => p :: faultPaths fault
  | .outputRead p fault => p :: faultPaths fault
  | .cleanup p fault => p :: faultPaths fault
  | _ => []

/-- A fault of looking something up or reading it names no path. -/
lemma faultPaths_of_locateNode {p : Path} {fault : Fault}
    (h : d.locateNode cwd true p = .error fault) : faultPaths fault = [] := by
  unfold Disk.locateNode Disk.locate at h
  split at h
  · cases h
  · cases h
    rfl
  · next hlocate =>
    cases h
    split at hlocate
    · cases hlocate
      rfl
    split at hlocate
    · cases hlocate
      rfl
    split at hlocate
    · cases hlocate
      rfl
    split at hlocate
    · cases hlocate
    · cases hlocate
      rfl

lemma faultPaths_of_list {p : Path} {fault : Fault} (h : d.list cwd p = .error fault) :
    faultPaths fault = [] := by
  unfold Disk.list at h
  split at h
  · split at h
    · cases h
    · cases h
      rfl
  · cases h
    rfl
  · next hlocate =>
    cases h
    exact faultPaths_of_locateNode hlocate

lemma faultPaths_of_readText {p : Path} {fault : Fault} (h : d.readText cwd p = .error fault) :
    faultPaths fault = [] := by
  unfold Disk.readText Disk.readBytes Disk.locateEntry at h
  cases hlocate : d.locateNode cwd true p with
  | error fault' =>
    rw [hlocate] at h
    cases h
    exact faultPaths_of_locateNode hlocate
  | ok found =>
    simp only [hlocate] at h
    split at h
    · unfold Disk.textOf at h
      split at h
      · cases h
      · cases h
        rfl
    · next hbytes =>
      cases h
      split at hbytes
      · split at hbytes <;> cases hbytes <;> rfl
      · cases hbytes
        rfl

/-- What a result names was asked about: what it holds by the question that it comes from, and what
failed by a listing or a reading. -/
def IsBacked {β : Type} (origin : β → Question) (questions : List Question) :
    Except Failure (List β) → Prop
  | .ok found => ∀ b ∈ found, origin b ∈ questions
  | .error failure => ∀ p ∈ failurePaths failure, .list p ∈ questions ∨ .read p ∈ questions

lemma IsBacked.mono {β : Type} {origin : β → Question} {questions more : List Question}
    {result : Except Failure (List β)} (h : IsBacked origin questions result)
    (hsub : questions ⊆ more) : IsBacked origin more result := by
  cases result with
  | ok found => exact fun b hb => hsub (h b hb)
  | error failure => exact fun p hp => (h p hp).imp (fun h => hsub h) (fun h => hsub h)

namespace Inquiry

variable {α β : Type}

/-- Collecting asks what its steps ask. -/
lemma forall_asked_collectAll {step : α → Inquiry (Except Failure (List β))} {l : List α}
    {P : Question → Prop} (h : ∀ a ∈ l, ∀ q ∈ (step a).asked d cwd, P q) :
    ∀ q ∈ (collectAll step l).asked d cwd, P q := by
  induction l with
  | nil =>
    intro q hq
    cases hq
  | cons a rest ih =>
    intro q hq
    rw [collectAll, asked_bind] at hq
    rcases List.mem_append.mp hq with hq | hq
    · exact h a (List.mem_cons_self ..) q hq
    · cases hrun : (step a).run d cwd with
      | error failure =>
        rw [hrun] at hq
        cases hq
      | ok found =>
        simp only [hrun, asked_bind] at hq
        rcases List.mem_append.mp hq with hq | hq
        · exact ih (fun b hb => h b (List.mem_cons_of_mem _ hb)) q hq
        · cases hrest : (collectAll step rest).run d cwd <;> rw [hrest] at hq <;> cases hq

/-- What is collected from results that are backed is backed. -/
lemma isBacked_collectAll {step : α → Inquiry (Except Failure (List β))} {origin : β → Question}
    {l : List α}
    (h : ∀ a ∈ l, IsBacked origin ((step a).asked d cwd) ((step a).run d cwd)) :
    IsBacked origin ((collectAll step l).asked d cwd) ((collectAll step l).run d cwd) := by
  induction l with
  | nil =>
    intro b hb
    cases hb
  | cons a rest ih =>
    have hfirst := h a (List.mem_cons_self ..)
    have hrest := ih fun b hb => h b (List.mem_cons_of_mem _ hb)
    rw [collectAll, asked_bind, run_bind]
    cases hrun : (step a).run d cwd with
    | error failure =>
      rw [hrun] at hfirst
      exact hfirst.mono (List.subset_append_left _ _)
    | ok found =>
      rw [hrun] at hfirst
      simp only [asked_bind, run_bind]
      cases hmore : (collectAll step rest).run d cwd with
      | error failure =>
        rw [hmore] at hrest
        exact hrest.mono fun q hq => List.mem_append_right _ (List.mem_append_left _ hq)
      | ok more =>
        rw [hmore] at hrest
        intro b hb
        rcases List.mem_append.mp hb with hb | hb
        · exact List.mem_append_left _ (hfirst b hb)
        · exact List.mem_append_right _ (List.mem_append_left _ (hrest b hb))

lemma isBelow_of_asked_visit {suffix : String}
    {enter : Path → Inquiry (Except Failure (List Path))} {p : Path} {name : String}
    (hname : IsProper name) (node : Node)
    (h : ∀ q ∈ (enter (p.child name)).asked d cwd, IsBelow (p.child name) q) :
    ∀ q ∈ (visit suffix enter p (name, node)).asked d cwd, IsBelow p q := by
  intro q hq
  cases hshown : isHidden name with
  | true =>
    unfold visit at hq
    simp [hshown] at hq
  | false =>
    by_cases hdirectory : node = .directory
    · subst hdirectory
      rw [visit_directory, hshown] at hq
      exact .of_child hname hshown (h q hq)
    · rw [visit_of_ne_directory _ _ _ _ hdirectory, hshown, if_neg Bool.false_ne_true] at hq
      split at hq
      · rw [asked_probe] at hq
        obtain rfl := List.mem_singleton.mp hq
        exact ⟨[name], by simp [hname, hshown], by simp, rfl⟩
      · cases hq

/-- A walk lists and tests what is below its directory. -/
lemma isBelow_of_asked_walk (wf : d.WellFormed) {suffix : String} {fuel : Nat} {p : Path} :
    ∀ q ∈ (walk suffix fuel p).asked d cwd, IsBelow p q := by
  induction fuel generalizing p with
  | zero =>
    intro q hq
    cases hq
  | succ fuel ih =>
    intro q hq
    rw [walk, asked] at hq
    rcases List.mem_cons.mp hq with rfl | hq
    · exact .of_directory rfl rfl
    simp only [Question.answer] at hq
    cases hlist : d.list cwd p with
    | error fault =>
      rw [hlist] at hq
      cases hq
    | ok entries =>
      rw [hlist] at hq
      refine forall_asked_collectAll ?_ q hq
      rintro ⟨name, node⟩ hchild
      obtain ⟨place, -, hentries⟩ := exists_locate_of_list hlist
      rw [hentries] at hchild
      have hname := wf.isProper_last (wf.mem_children.mp (Disk.mem_sortedChildren.mp hchild))
      exact isBelow_of_asked_visit hname node fun q hq => ih q hq

lemma isBacked_visit {suffix : String} {enter : Path → Inquiry (Except Failure (List Path))}
    {p : Path} (h : ∀ q, IsBacked .isFile ((enter q).asked d cwd) ((enter q).run d cwd))
    (entry : String × Node) : IsBacked .isFile ((visit suffix enter p entry).asked d cwd)
      ((visit suffix enter p entry).run d cwd) := by
  have hnothing : ∀ questions, IsBacked Question.isFile questions (.ok []) := by simp [IsBacked]
  obtain ⟨name, node⟩ := entry
  by_cases hdirectory : node = .directory
  · subst hdirectory
    rw [visit_directory]
    split
    · exact hnothing _
    · exact h _
  · rw [visit_of_ne_directory _ _ _ _ hdirectory]
    split
    · exact hnothing _
    · split
      · rw [run_probe, asked_probe]
        split
        · simp [IsBacked]
        · exact hnothing _
      · exact hnothing _

/-- What a walk finds it has tested, and where it fails it has listed. -/
lemma isBacked_walk (suffix : String) (fuel : Nat) (p : Path) :
    IsBacked .isFile ((walk suffix fuel p).asked d cwd) ((walk suffix fuel p).run d cwd) := by
  induction fuel generalizing p with
  | zero =>
    intro b hb
    cases hb
  | succ fuel ih =>
    rw [walk, asked, run]
    simp only [Question.answer]
    cases hlist : d.list cwd p with
    | error fault =>
      intro q hq
      simp only [failurePaths, faultPaths, faultPaths_of_list hlist, List.mem_cons,
        List.not_mem_nil, or_false, or_self] at hq
      exact .inl (by simp [hq])
    | ok entries =>
      have hcollected := isBacked_collectAll (l := entries) fun entry _ =>
        @isBacked_visit d cwd suffix _ p ih entry
      exact hcollected.mono (List.subset_cons_self _ _)

lemma isBelow_of_asked_findFiles (wf : d.WellFormed) {suffix : String} {fuel : Nat}
    {directory : Path} :
    ∀ q ∈ (findFiles fuel suffix directory).asked d cwd, IsBelow directory q := by
  intro q hq
  rw [findFiles, asked] at hq
  rcases List.mem_cons.mp hq with rfl | hq
  · exact .of_directory rfl rfl
  simp only [Question.answer] at hq
  cases hdirectory : d.isDirectory cwd directory <;> rw [hdirectory] at hq
  · cases hq
  · exact isBelow_of_asked_walk wf q hq

lemma isBacked_findFiles (suffix : String) (fuel : Nat) (directory : Path) :
    IsBacked .isFile ((findFiles fuel suffix directory).asked d cwd)
      ((findFiles fuel suffix directory).run d cwd) := by
  rw [findFiles, asked, run]
  simp only [Question.answer]
  cases d.isDirectory cwd directory with
  | false =>
    intro b hb
    cases hb
  | true => exact (isBacked_walk suffix fuel directory).mono (List.subset_cons_self _ _)

@[simp]
lemma asked_readSource (path : Path) : (readSource path).asked d cwd = [.read path] := by
  rw [readSource, asked]
  simp only [Question.answer]
  cases d.readText cwd path <;> rfl

/-- The question that the text of a file comes from. -/
def originOf (f : SourceFile) : Question :=
  .read ⟨f.filename⟩

lemma isBacked_readSource (path : Path) :
    IsBacked originOf ((readSource path).asked d cwd) ((readSource path).run d cwd) := by
  rw [asked_readSource, readSource, run]
  simp only [Question.answer]
  cases hread : d.readText cwd path with
  | ok content => simp [IsBacked, originOf]
  | error fault => simp [IsBacked, failurePaths, faultPaths_of_readText hread]

/-- All that the files of a directory are looked for with is asked below that directory. -/
lemma isBelow_of_asked_sources (wf : d.WellFormed) {suffix : String} {fuel : Nat}
    {directory : Path} : ∀ q ∈ (sources fuel suffix directory).asked d cwd, IsBelow directory q := by
  intro q hq
  rw [sources, asked_bind] at hq
  rcases List.mem_append.mp hq with hq | hq
  · exact isBelow_of_asked_findFiles wf q hq
  have hbacked := @isBacked_findFiles d cwd suffix fuel directory
  cases hfound : (findFiles fuel suffix directory).run d cwd with
  | error failure =>
    rw [hfound] at hq
    cases hq
  | ok paths =>
    rw [hfound] at hq hbacked
    refine forall_asked_collectAll (fun path hpath q hq => ?_) q hq
    rw [asked_readSource] at hq
    obtain rfl := List.mem_singleton.mp hq
    exact (isBelow_of_asked_findFiles wf _ (hbacked path hpath)).read_of_isFile

lemma isBacked_sources (suffix : String) (fuel : Nat) (directory : Path) :
    IsBacked originOf ((sources fuel suffix directory).asked d cwd)
      ((sources fuel suffix directory).run d cwd) := by
  have hbacked := @isBacked_findFiles d cwd suffix fuel directory
  rw [sources, asked_bind, run_bind]
  cases hfound : (findFiles fuel suffix directory).run d cwd with
  | error failure =>
    rw [hfound] at hbacked
    exact hbacked.mono (List.subset_append_left _ _)
  | ok paths =>
    exact (isBacked_collectAll fun path _ => isBacked_readSource path).mono
      (List.subset_append_right _ _)

lemma isBelow_of_asked_moduleFiles (wf : d.WellFormed) {fuel : Nat} {directory : Path} :
    ∀ q ∈ (moduleFiles fuel directory).asked d cwd, IsBelow directory q := by
  intro q hq
  rw [moduleFiles, asked_bind] at hq
  rcases List.mem_append.mp hq with hq | hq
  · exact isBelow_of_asked_sources wf q hq
  cases hdeclarations : (sources fuel declarationSuffix directory).run d cwd with
  | error failure =>
    rw [hdeclarations] at hq
    cases hq
  | ok declarations =>
    simp only [hdeclarations, asked_bind] at hq
    rcases List.mem_append.mp hq with hq | hq
    · exact isBelow_of_asked_sources wf q hq
    · cases himpls : (sources fuel implementationSuffix directory).run d cwd <;>
        rw [himpls] at hq <;> cases hq

lemma isBacked_moduleFiles (fuel : Nat) (directory : Path) :
    IsBacked originOf ((moduleFiles fuel directory).asked d cwd)
      (((moduleFiles fuel directory).run d cwd).map (·.2)) := by
  have hdeclared := @isBacked_sources d cwd declarationSuffix fuel directory
  have himplemented := @isBacked_sources d cwd implementationSuffix fuel directory
  rw [moduleFiles, asked_bind, run_bind]
  cases hdeclarations : (sources fuel declarationSuffix directory).run d cwd with
  | error failure =>
    rw [hdeclarations] at hdeclared
    exact hdeclared.mono (List.subset_append_left _ _)
  | ok declarations =>
    simp only [asked_bind, run_bind]
    cases himpls : (sources fuel implementationSuffix directory).run d cwd with
    | error failure =>
      rw [himpls] at himplemented
      exact himplemented.mono fun q hq => List.mem_append_right _ (List.mem_append_left _ hq)
    | ok impls =>
      rw [himpls] at himplemented
      exact himplemented.mono fun q hq => List.mem_append_right _ (List.mem_append_left _ hq)

lemma asked_ofImport {root directory : Path} {name : String}
    (accepted : moduleDirectory? root name = some directory) (fuel : Nat) :
    (ofImport fuel root name).asked d cwd = (moduleFiles fuel directory).asked d cwd := by
  rw [ofImport, accepted]
  simp only [asked_bind]
  cases (moduleFiles fuel directory).run d cwd <;> exact List.append_nil _

/-- All that an import needs is asked below its directory. -/
lemma isBelow_of_asked_ofImport (wf : d.WellFormed) {fuel : Nat} {root directory : Path}
    {name : String} (accepted : moduleDirectory? root name = some directory) :
    ∀ q ∈ (ofImport fuel root name).asked d cwd, IsBelow directory q := by
  rw [asked_ofImport accepted]
  exact isBelow_of_asked_moduleFiles wf

end Inquiry

/-- What an import reports it has asked about: the implementation files of an entry it has read, and
where it fails it could not list or read. -/
lemma reports_of_resolveImport (wf : d.WellFormed) {fuel : Nat} (hfuel : depth d < fuel)
    {root directory : Path} {name : String}
    (accepted : moduleDirectory? root name = some directory) :
    (∀ entry, (resolveImport d cwd root name).2 = .ok (some entry) →
      ∀ f ∈ entry.impls, .read ⟨f.filename⟩ ∈ (Inquiry.ofImport fuel root name).asked d cwd) ∧
    ∀ failure, (resolveImport d cwd root name).2 = .error failure → ∀ p ∈ failurePaths failure,
      .list p ∈ (Inquiry.ofImport fuel root name).asked d cwd ∨
        .read p ∈ (Inquiry.ofImport fuel root name).asked d cwd := by
  have hbacked := @Inquiry.isBacked_moduleFiles d cwd fuel directory
  rw [← Inquiry.asked_ofImport accepted, Inquiry.run_moduleFiles wf hfuel] at hbacked
  rw [resolveImport_of_accepted accepted]
  cases hfiles : moduleFiles d cwd directory with
  | error failure =>
    rw [hfiles] at hbacked
    constructor
    · intro _ h
      cases h
    · intro _ h
      cases h
      exact hbacked
  | ok files =>
    rw [hfiles] at hbacked
    constructor
    · intro entry hentry
      obtain ⟨declarations, impls⟩ := files
      simp only [Except.map, Except.ok.injEq, ManifestEntry.ofFiles?, Option.ite_none_left_eq_some,
        Option.some.injEq] at hentry
      obtain ⟨-, rfl⟩ := hentry
      exact hbacked
    · intro _ h
      cases h

end SnippetForge.Discovery
