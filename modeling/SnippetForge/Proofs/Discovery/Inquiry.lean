import SnippetForge.Proofs.Discovery.Failures

/-!
# What discovery asks a disk

A function of a disk does not show which parts of the disk it looks at. Here discovery is written once
more, as an *inquiry*: a tree of questions about paths, in which every question is answered before
the next one is asked, and in which nothing is known about the disk but the answers. Put to a disk,
the inquiry of an import gives exactly what the import resolves to. The questions that it asks on
the way are therefore all that discovery lists, tests and reads.

An inquiry cannot look at the disk to see how deep a walk may go, so its walks have a bound of their
own. Any bound above the depth of the disk will do.
-/

namespace SnippetForge.Discovery

/-! ### Inquiries -/

/-- A question about what a path leads to. -/
inductive Question
  /-- Is it a directory? -/
  | isDirectory (p : Path)
  /-- Which entries does the directory have? -/
  | list (p : Path)
  /-- Is it a regular file? -/
  | isFile (p : Path)
  /-- Which text does the file hold? -/
  | read (p : Path)
  deriving DecidableEq

namespace Question

/-- The kind of answer to a question. -/
abbrev Answer : Question → Type
  | .isDirectory _ => Bool
  | .list _ => Except Fault (List (String × Node))
  | .isFile _ => Bool
  | .read _ => Except Fault String

/-- The path that a question is about. -/
def path : Question → Path
  | .isDirectory p => p
  | .list p => p
  | .isFile p => p
  | .read p => p

/-- Whether a question is about a file and not about a directory. -/
def isAboutFile : Question → Bool
  | .isDirectory _ => false
  | .list _ => false
  | .isFile _ => true
  | .read _ => true

/-- What a disk answers. -/
def answer (d : Disk) (cwd : Place) : (q : Question) → q.Answer
  | .isDirectory p => d.isDirectory cwd p
  | .list p => d.list cwd p
  | .isFile p => d.isFile cwd p
  | .read p => d.readText cwd p

end Question

/-- A computation that knows of a disk what it is told in answer to its questions. -/
inductive Inquiry (α : Type) : Type
  | done (result : α)
  | ask (q : Question) (next : q.Answer → Inquiry α)

namespace Inquiry

variable {α β : Type} {d : Disk} {cwd : Place}

/-- An inquiry followed by another one. -/
def bind : Inquiry α → (α → Inquiry β) → Inquiry β
  | .done result, f => f result
  | .ask q next, f => .ask q fun a => (next a).bind f

/-- What an inquiry finds out from a disk. -/
def run (d : Disk) (cwd : Place) : Inquiry α → α
  | .done result => result
  | .ask q next => (next (q.answer d cwd)).run d cwd

/-- The questions that an inquiry asks a disk. -/
def asked (d : Disk) (cwd : Place) : Inquiry α → List Question
  | .done _ => []
  | .ask q next => q :: (next (q.answer d cwd)).asked d cwd

@[simp]
lemma run_done (result : α) : (done result).run d cwd = result := rfl

@[simp]
lemma asked_done (result : α) : (done result).asked d cwd = [] := rfl

@[simp]
lemma run_bind (x : Inquiry α) (f : α → Inquiry β) :
    (x.bind f).run d cwd = (f (x.run d cwd)).run d cwd := by
  induction x with
  | done result => rfl
  | ask q next ih => exact ih (q.answer d cwd)

@[simp]
lemma asked_bind (x : Inquiry α) (f : α → Inquiry β) :
    (x.bind f).asked d cwd = x.asked d cwd ++ (f (x.run d cwd)).asked d cwd := by
  induction x with
  | done result => rfl
  | ask q next ih =>
    rw [bind, asked, asked, ih, List.cons_append]
    rfl

/-- Disks that answer all that is asked alike are not told apart. -/
lemma run_congr {d' : Disk} {cwd' : Place} {x : Inquiry α}
    (h : ∀ q ∈ x.asked d cwd, q.answer d' cwd' = q.answer d cwd) :
    x.run d' cwd' = x.run d cwd := by
  induction x with
  | done result => rfl
  | ask q next ih =>
    rw [run, run, h q (List.mem_cons_self ..)]
    exact ih _ fun q' hq' => h q' (List.mem_cons_of_mem _ hq')

/-! ### Discovery as an inquiry -/

/-- An inquiry for every element, up to the first failure. -/
def collectAll (step : α → Inquiry (Except Failure (List β))) :
    List α → Inquiry (Except Failure (List β))
  | [] => .done (.ok [])
  | a :: rest =>
    (step a).bind fun
      | .error failure => .done (.error failure)
      | .ok found =>
        (collectAll step rest).bind fun
          | .error failure => .done (.error failure)
          | .ok more => .done (.ok (found ++ more))

/-- Asks whether a path is that of a file. -/
def probe (path : Path) : Inquiry (Except Failure (List Path)) :=
  .ask (.isFile path) fun
    | true => .done (.ok [path])
    | false => .done (.ok [])

/-- What a walk asks at an entry of a directory. -/
def visit (suffix : String) (enter : Path → Inquiry (Except Failure (List Path)))
    (directory : Path) (entry : String × Node) : Inquiry (Except Failure (List Path)) :=
  let path := directory.child entry.1
  if isHidden entry.1 then .done (.ok [])
  else
    match entry.2 with
    | .directory => enter path
    | _ =>
      if hasSuffix suffix entry.1 then probe path else .done (.ok [])

/-- Asks for the files below a directory, at most `fuel` levels deep. -/
def walk (suffix : String) : (fuel : Nat) → Path → Inquiry (Except Failure (List Path))
  | 0, _ => .done (.ok [])
  | fuel + 1, directory =>
    .ask (.list directory) fun
      | .error fault => .done (.error (.discovery directory (.onEntry directory fault)))
      | .ok entries => collectAll (visit suffix (walk suffix fuel) directory) entries

/-- Asks for the files of a directory, if it is one. -/
def findFiles (fuel : Nat) (suffix : String) (directory : Path) :
    Inquiry (Except Failure (List Path)) :=
  .ask (.isDirectory directory) fun
    | true => walk suffix fuel directory
    | false => .done (.ok [])

/-- Asks for the text of a file. -/
def readSource (path : Path) : Inquiry (Except Failure (List SourceFile)) :=
  .ask (.read path) fun
    | .ok content => .done (.ok [⟨path.text, content⟩])
    | .error fault => .done (.error (.discovery path fault))

/-- Asks for the files of a directory and for their texts. -/
def sources (fuel : Nat) (suffix : String) (directory : Path) :
    Inquiry (Except Failure (List SourceFile)) :=
  (findFiles fuel suffix directory).bind fun
    | .ok paths => collectAll readSource paths
    | .error failure => .done (.error failure)

/-- Asks for the declaration and the implementation files of a module. -/
def moduleFiles (fuel : Nat) (directory : Path) :
    Inquiry (Except Failure (List SourceFile × List SourceFile)) :=
  (sources fuel declarationSuffix directory).bind fun
    | .error failure => .done (.error failure)
    | .ok declarations =>
      (sources fuel implementationSuffix directory).bind fun
        | .error failure => .done (.error failure)
        | .ok impls => .done (.ok (declarations, impls))

/-- Asks for all that an import needs. -/
def ofImport (fuel : Nat) (root : Path) (name : String) :
    Inquiry (Outcome (Option ManifestEntry)) :=
  match moduleDirectory? root name with
  | none => .done ([.debug ("Skipping import with non-package name: " ++ name)], .ok none)
  | some directory =>
    (moduleFiles fuel directory).bind fun
      | .error failure => .done ([], .error failure)
      | .ok (declarations, impls) =>
        .done ([importLine name declarations impls],
          .ok (ManifestEntry.ofFiles? name declarations impls))

/-! ### Both ways of discovery agree -/

lemma run_collectAll (step : α → Inquiry (Except Failure (List β))) (l : List α) :
    (collectAll step l).run d cwd = Discovery.collectAll (fun a => (step a).run d cwd) l := by
  induction l with
  | nil => rfl
  | cons a rest ih =>
    rw [collectAll, run_bind, Discovery.collectAll]
    cases (step a).run d cwd with
    | error failure => rfl
    | ok found =>
      simp only [run_bind, ih]
      cases Discovery.collectAll (fun a => (step a).run d cwd) rest <;> rfl

lemma visit_directory (suffix : String) (enter : Path → Inquiry (Except Failure (List Path)))
    (p : Path) (name : String) : visit suffix enter p (name, .directory) =
      if isHidden name then .done (.ok []) else enter (p.child name) := rfl

lemma visit_of_ne_directory (suffix : String)
    (enter : Path → Inquiry (Except Failure (List Path))) (p : Path) (name : String) {node : Node}
    (h : node ≠ .directory) : visit suffix enter p (name, node) =
      if isHidden name then .done (.ok [])
      else if hasSuffix suffix name then probe (p.child name)
      else .done (.ok []) := by
  cases node with
  | directory => exact absurd rfl h
  | _ => rfl

lemma run_probe (path : Path) :
    (probe path).run d cwd = if d.isFile cwd path then .ok [path] else .ok [] := by
  rw [probe, run]
  simp only [Question.answer]
  cases d.isFile cwd path <;> rfl

@[simp]
lemma asked_probe (path : Path) : (probe path).asked d cwd = [.isFile path] := by
  rw [probe, asked]
  simp only [Question.answer]
  cases d.isFile cwd path <;> rfl

lemma run_visit (suffix : String) (enter : Path → Inquiry (Except Failure (List Path))) (p : Path)
    (entry : String × Node) : (visit suffix enter p entry).run d cwd =
      Discovery.visit d cwd suffix (fun q => (enter q).run d cwd) p entry := by
  obtain ⟨name, node⟩ := entry
  by_cases hdirectory : node = .directory
  · subst hdirectory
    rw [visit_directory, Discovery.visit_directory]
    split <;> rfl
  · rw [visit_of_ne_directory _ _ _ _ hdirectory, Discovery.visit_of_ne_directory _ _ _ hdirectory]
    cases isHidden name with
    | true => rfl
    | false =>
      cases hasSuffix suffix name with
      | false => rfl
      | true =>
        rw [if_neg Bool.false_ne_true, if_neg Bool.false_ne_true, if_pos rfl, Bool.true_and,
          run_probe]

lemma run_walk (suffix : String) (fuel : Nat) (p : Path) :
    (walk suffix fuel p).run d cwd = Discovery.walk d cwd suffix fuel p := by
  induction fuel generalizing p with
  | zero => rfl
  | succ fuel ih =>
    rw [walk, Discovery.walk, run]
    simp only [Question.answer]
    cases d.list cwd p with
    | error fault => rfl
    | ok entries => simp only [run_collectAll, run_visit, ih]

end Inquiry

variable {d : Disk} {cwd : Place}

lemma collectAll_congr {α β : Type} {step step' : α → Except Failure (List β)} {l : List α}
    (h : ∀ a ∈ l, step a = step' a) : collectAll step l = collectAll step' l := by
  induction l with
  | nil => rfl
  | cons a rest ih =>
    rw [collectAll, collectAll, h a (List.mem_cons_self ..),
      ih fun b hb => h b (List.mem_cons_of_mem _ hb)]

/-- A walk from a place finds no more if it may go deeper than the disk does below that place. -/
lemma walk_of_deep (wf : d.WellFormed) {suffix : String} {fuel levels : Nat} {p : Path}
    {place : Place}
    (hp : ∀ entries, d.list cwd p = .ok entries →
      d.locate cwd true p = .ok (.taken place .directory))
    (hlevels : depth d ≤ place.length + levels) (hfuel : levels < fuel) :
    walk d cwd suffix fuel p = walk d cwd suffix (levels + 1) p := by
  induction levels generalizing p place fuel with
  | zero =>
    obtain ⟨fuel, rfl⟩ := Nat.exists_eq_add_one_of_ne_zero (Nat.ne_zero_of_lt hfuel)
    simp only [walk]
    cases hlist : d.list cwd p with
    | error fault => rfl
    | ok entries =>
      obtain rfl := list_eq_of_locate (hp entries hlist) hlist
      refine collectAll_congr ?_
      rintro ⟨name, node⟩ hchild
      -- Nothing is below a place as deep as the disk.
      obtain ⟨e, hentry, -⟩ := Disk.node?_eq_some_iff.mp
        (wf.mem_children.mp (Disk.mem_sortedChildren.mp hchild))
      have hdeep := le_depth (Disk.mem_entries (by simp) hentry)
      simp only [List.length_append, List.length_singleton] at hdeep
      omega
  | succ levels ih =>
    obtain ⟨fuel, rfl⟩ := Nat.exists_eq_add_one_of_ne_zero (Nat.ne_zero_of_lt hfuel)
    rw [walk, walk]
    cases hlist : d.list cwd p with
    | error fault => rfl
    | ok entries =>
      have hlocate := hp entries hlist
      obtain rfl := list_eq_of_locate hlocate hlist
      refine collectAll_congr ?_
      rintro ⟨name, node⟩ hchild
      have hnode := wf.mem_children.mp (Disk.mem_sortedChildren.mp hchild)
      by_cases hdirectory : node = .directory
      · subst hdirectory
        rw [visit_directory, visit_directory]
        have hbelow := @ih fuel (p.child name) (place ++ [name])
          (fun _ h => locate_child_of_list (wf.isProper_last hnode) hlocate hnode h)
          (by simp only [List.length_append, List.length_singleton]; omega) (by omega)
        rw [hbelow]
      · rw [visit_of_ne_directory _ _ _ hdirectory, visit_of_ne_directory _ _ _ hdirectory]

namespace Inquiry

lemma run_findFiles (wf : d.WellFormed) {fuel : Nat} (hfuel : depth d < fuel) (suffix : String)
    (directory : Path) : (findFiles fuel suffix directory).run d cwd =
      Discovery.findFiles d cwd suffix directory := by
  rw [findFiles, Discovery.findFiles, run]
  simp only [Question.answer]
  cases hdirectory : d.isDirectory cwd directory with
  | false => rfl
  | true =>
    obtain ⟨place, hplace⟩ := isDirectory_eq_true_iff.mp hdirectory
    simp only [run_walk, if_true]
    exact walk_of_deep wf (fun _ _ => hplace) (Nat.le_add_left _ _) hfuel

lemma run_readSource (path : Path) : (readSource path).run d cwd =
    (Discovery.readSource d cwd path).map fun f => [f] := by
  rw [readSource, Discovery.readSource, run]
  simp only [Question.answer]
  cases d.readText cwd path <;> rfl

lemma run_sources (wf : d.WellFormed) {fuel : Nat} (hfuel : depth d < fuel) (suffix : String)
    (directory : Path) : (sources fuel suffix directory).run d cwd =
      Discovery.sources d cwd suffix directory := by
  rw [sources, Discovery.sources, run_bind, run_findFiles wf hfuel]
  cases Discovery.findFiles d cwd suffix directory with
  | error failure => rfl
  | ok paths => simp only [run_collectAll, run_readSource, readSources]

lemma run_moduleFiles (wf : d.WellFormed) {fuel : Nat} (hfuel : depth d < fuel)
    (directory : Path) : (moduleFiles fuel directory).run d cwd =
      Discovery.moduleFiles d cwd directory := by
  rw [moduleFiles, Discovery.moduleFiles, run_bind, run_sources wf hfuel]
  cases Discovery.sources d cwd declarationSuffix directory with
  | error failure => rfl
  | ok declarations =>
    simp only [run_bind, run_sources wf hfuel]
    cases Discovery.sources d cwd implementationSuffix directory <;> rfl

/-- The inquiry of an import finds out what the import resolves to, and what is reported on it. -/
lemma run_ofImport (wf : d.WellFormed) {fuel : Nat} (hfuel : depth d < fuel) (root : Path)
    (name : String) : (ofImport fuel root name).run d cwd = resolveImport d cwd root name := by
  rw [ofImport, resolveImport]
  cases moduleDirectory? root name with
  | none => rfl
  | some directory =>
    simp only [run_bind, run_moduleFiles wf hfuel]
    cases Discovery.moduleFiles d cwd directory <;> rfl

end Inquiry

end SnippetForge.Discovery
