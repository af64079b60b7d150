import SnippetForge.Proofs.Discovery.Visible

/-!
# What an import resolves to

Discovery walks by paths and stops at the first thing that it cannot list or read. If everything on
its way can be listed and read, each path means the place it spells, and the walk finds exactly the
visible files below the directory of the import. The entry of the import follows: it exists if a
declaration file is visible, its declaration holds the texts of all of them, and its implementation
files stay apart.
-/

namespace SnippetForge.Discovery

variable {d : Disk} {cwd : Place} {suffix : String}

/-! ### Below a directory -/

/-- A walk from a directory enters the directory itself and every open one below it. -/
def IsEntered (d : Disk) (cwd : Place) (directory : Path) (dirs : Place) : Prop :=
  ∃ base, d.locate cwd true directory = .ok (.taken base .directory) ∧ IsOpen d base dirs

/-- A place below a directory is that of a visible file. -/
def IsSource (d : Disk) (cwd : Place) (suffix : String) (directory : Path) (rel : Place) : Prop :=
  ∃ base dirs name, d.locate cwd true directory = .ok (.taken base .directory) ∧
    rel = dirs ++ [name] ∧ IsVisible d suffix base dirs name

/-- Everything that a walk enters can be listed, and all that it is to find can be read. -/
structure IsReadable (d : Disk) (cwd : Place) (suffix : String) (directory : Path) : Prop where
  lists : ∀ dirs, IsEntered d cwd directory dirs →
    ∃ entries, d.list cwd (directory.descend dirs) = .ok entries
  reads : ∀ rel, IsSource d cwd suffix directory rel →
    ∃ content, d.readText cwd (directory.descend rel) = .ok content

/-- Places with their texts are all the visible files below a directory, each once, in the order of
their bytes, component by component. -/
structure IsCollection (d : Disk) (cwd : Place) (suffix : String) (directory : Path)
    (files : List (Place × String)) : Prop where
  complete : ∀ rel, rel ∈ files.map (·.1) ↔ IsSource d cwd suffix directory rel
  ordered : (files.map (·.1)).Pairwise fun a b => a.map Text.bytes < b.map Text.bytes
  read : ∀ f ∈ files, d.readText cwd (directory.descend f.1) = .ok f.2

/-- What is entered is what is open from where the path of the directory leads. -/
lemma isEntered_iff {directory : Path} {base dirs : Place}
    (hbase : d.locate cwd true directory = .ok (.taken base .directory)) :
    IsEntered d cwd directory dirs ↔ IsOpen d base dirs := by
  constructor
  · rintro ⟨base', hbase', hopen⟩
    rw [hbase] at hbase'
    cases hbase'
    exact hopen
  · exact fun hopen => ⟨base, hbase, hopen⟩

/-- The sources are the files visible from where the path of the directory leads. -/
lemma isSource_iff {directory : Path} {base rel : Place}
    (hbase : d.locate cwd true directory = .ok (.taken base .directory)) :
    IsSource d cwd suffix directory rel ↔
      ∃ dirs name, rel = dirs ++ [name] ∧ IsVisible d suffix base dirs name := by
  constructor
  · rintro ⟨base', dirs, name, hbase', hrel, hvisible⟩
    rw [hbase] at hbase'
    cases hbase'
    exact ⟨dirs, name, hrel, hvisible⟩
  · rintro ⟨dirs, name, hrel, hvisible⟩
    exact ⟨base, dirs, name, hbase, hrel, hvisible⟩

/-- Whether a directory is readable can be told from the entries below it. -/
lemma isReadable_of_entries {directory : Path} {base : Place}
    (hbase : d.locate cwd true directory = .ok (.taken base .directory))
    (hlist : (d.list cwd directory).isOk = true)
    (hlists : ∀ e ∈ d.entries, base <+: e.1 → e.2.node = .directory →
      (d.list cwd (directory.descend (e.1.drop base.length))).isOk = true)
    (hreads : ∀ e ∈ d.entries, base <+: e.1 →
      (e.1.getLast?.any fun name => hasSuffix suffix name && d.isFile e.1.dropLast ⟨name⟩) = true →
        (d.readText cwd (directory.descend (e.1.drop base.length))).isOk = true) :
    IsReadable d cwd suffix directory := by
  have hok : ∀ {ε α : Type} {result : Except ε α}, result.isOk = true → ∃ a, result = .ok a := by
    intro ε α result h
    cases result with
    | error _ => cases h
    | ok a => exact ⟨a, rfl⟩
  constructor
  · intro dirs hentered
    have hopen := (isEntered_iff hbase).mp hentered
    by_cases hdirs : dirs = []
    · subst hdirs
      exact hok hlist
    · obtain ⟨e, hentry, hnode⟩ :=
        Disk.node?_eq_some_iff.mp (hopen.real dirs List.prefix_rfl hdirs)
      have hlisted := hlists _ (Disk.mem_entries (by simp [hdirs]) hentry)
        (List.prefix_append _ _) hnode
      rw [List.drop_left] at hlisted
      exact hok hlisted
  · intro rel hsource
    obtain ⟨dirs, name, rfl, hvisible⟩ := (isSource_iff hbase).mp hsource
    obtain ⟨node, hnode⟩ := Option.isSome_iff_exists.mp hvisible.held
    obtain ⟨e, hentry, -⟩ := Disk.node?_eq_some_iff.mp hnode
    have hread := hreads _ (Disk.mem_entries (by simp) hentry)
      (by rw [List.append_assoc]; exact List.prefix_append _ _)
      (by simp [hvisible.named, hvisible.regular])
    rw [List.append_assoc, List.drop_left] at hread
    exact hok hread

/-! ### What listing and reading say about a path -/

lemma exists_locate_of_list {p : Path} {entries : List (String × Node)}
    (h : d.list cwd p = .ok entries) :
    ∃ place, d.locate cwd true p = .ok (.taken place .directory) ∧
      entries = d.sortedChildren place := by
  unfold Disk.list at h
  split at h
  · next place heq =>
    split at h
    · exact ⟨place, Disk.locateNode_eq_ok_iff.mp heq, (Except.ok.inj h).symm⟩
    · cases h
  · cases h
  · cases h

lemma exists_locate_of_readText {p : Path} {content : String}
    (h : d.readText cwd p = .ok content) :
    ∃ place node, d.locate cwd true p = .ok (.taken place node) := by
  cases hnode : d.locateNode cwd true p with
  | error fault => simp [Disk.readText, Disk.readBytes, Disk.locateEntry, hnode] at h
  | ok found => exact ⟨found.1, found.2, Disk.locateNode_eq_ok_iff.mp hnode⟩

lemma isDirectory_eq_true_iff {p : Path} :
    d.isDirectory cwd p = true ↔ ∃ place, d.locate cwd true p = .ok (.taken place .directory) := by
  unfold Disk.isDirectory Disk.target?
  constructor
  · intro h
    cases hnode : d.locateNode cwd true p with
    | error fault => simp [hnode] at h
    | ok found =>
      obtain ⟨place, node⟩ := found
      cases node with
      | directory => exact ⟨place, Disk.locateNode_eq_ok_iff.mp hnode⟩
      | _ => simp [hnode] at h
  · rintro ⟨place, h⟩
    rw [Disk.locateNode_eq_ok_iff.mpr h]

/-- The name of a child that leads to a regular file leads to one from its directory. -/
lemma isFile_of_child {p : Path} {place : Place} {name : String} (hname : IsProper name)
    {node : Node} (hp : d.locate cwd true p = .ok (.taken place node))
    (h : d.isFile cwd (p.child name) = true) : d.isFile place ⟨name⟩ = true := by
  obtain ⟨q, content, hlocate⟩ := Disk.isFile_eq_true_iff.mp h
  exact Disk.isFile_eq_true_iff.mpr ⟨q, content, Disk.locate_name_of_child hname hp hlocate⟩

/-- A child that can be read leads to a regular file if its name does. -/
lemma isFile_child {p : Path} {place : Place} {name : String} (hname : IsProper name)
    {node : Node} (hp : d.locate cwd true p = .ok (.taken place node)) {content : String}
    (hread : d.readText cwd (p.child name) = .ok content)
    (h : d.isFile place ⟨name⟩ = true) : d.isFile cwd (p.child name) = true := by
  obtain ⟨q, m, hlocate⟩ := exists_locate_of_readText hread
  obtain ⟨q', bytes, hfile⟩ := Disk.isFile_eq_true_iff.mp h
  rw [Disk.locate_name_of_child hname hp hlocate] at hfile
  cases hfile
  exact Disk.isFile_eq_true_iff.mpr ⟨q, bytes, hlocate⟩

/-- A path that can be listed leads to the directory it is said to lead to. -/
lemma list_eq_of_locate {p : Path} {place : Place} {entries : List (String × Node)}
    (hp : d.locate cwd true p = .ok (.taken place .directory))
    (h : d.list cwd p = .ok entries) : entries = d.sortedChildren place := by
  obtain ⟨q, hq, rfl⟩ := exists_locate_of_list h
  rw [hp] at hq
  cases hq
  rfl

/-- A child that can be listed leads to the place of the child. -/
lemma locate_child_of_list {p : Path} {place : Place} {name : String} (hname : IsProper name)
    (hp : d.locate cwd true p = .ok (.taken place .directory))
    (hnode : d.node? (place ++ [name]) = some .directory) {entries : List (String × Node)}
    (h : d.list cwd (p.child name) = .ok entries) :
    d.locate cwd true (p.child name) = .ok (.taken (place ++ [name]) .directory) := by
  obtain ⟨q, hq, -⟩ := exists_locate_of_list h
  rw [hq, Disk.taken_of_locate_name hname hnode rfl (Disk.locate_name_of_child hname hp hq)]

/-- Where every open directory can be listed, its path leads to its place. -/
lemma locate_descend (wf : d.WellFormed) {p : Path} {place dirs : Place}
    (hp : d.locate cwd true p = .ok (.taken place .directory))
    (lists : ∀ dirs, IsOpen d place dirs → ∃ entries, d.list cwd (p.descend dirs) = .ok entries)
    (hopen : IsOpen d place dirs) :
    d.locate cwd true (p.descend dirs) = .ok (.taken (place ++ dirs) .directory) := by
  induction dirs generalizing p place with
  | nil =>
    rw [List.append_nil]
    exact hp
  | cons first dirs ih =>
    obtain ⟨hshown, hnode, hrest⟩ := isOpen_cons.mp hopen
    obtain ⟨entries, hlist⟩ := lists [first] (isOpen_cons.mpr ⟨hshown, hnode, isOpen_nil d _⟩)
    have hchild := locate_child_of_list (wf.isProper_last hnode) hp hnode hlist
    have hplace : place ++ first :: dirs = place ++ [first] ++ dirs := by simp
    rw [hplace]
    exact ih hchild (fun dirs h => lists (first :: dirs) (isOpen_cons.mpr ⟨hshown, hnode, h⟩)) hrest

/-! ### The walk -/

/-- Steps that all succeed collect what each of them gives. -/
lemma collectAll_eq_ok {α β : Type} {step : α → Except Failure (List β)} {give : α → List β}
    {l : List α} (h : ∀ a ∈ l, step a = .ok (give a)) : collectAll step l = .ok (l.flatMap give) := by
  induction l with
  | nil => rfl
  | cons a rest ih =>
    have hrest := ih fun b hb => h b (List.mem_cons_of_mem _ hb)
    simp only [collectAll, h a (List.mem_cons_self ..), hrest, List.flatMap_cons]

lemma visit_directory (enter : Path → Except Failure (List Path)) (p : Path) (name : String) :
    visit d cwd suffix enter p (name, .directory) =
      if isHidden name then .ok [] else enter (p.child name) := rfl

lemma visit_of_ne_directory (enter : Path → Except Failure (List Path)) (p : Path) (name : String)
    {node : Node} (h : node ≠ .directory) :
    visit d cwd suffix enter p (name, node) =
      if isHidden name then .ok []
      else if hasSuffix suffix name && d.isFile cwd (p.child name) then .ok [p.child name]
      else .ok [] := by
  cases node with
  | directory => exact absurd rfl h
  | _ => rfl

/-- A walk that can list whatever it enters finds what there is to find from the place that its
path leads to, but for files that their own paths do not lead to. -/
lemma walk_eq_ok (wf : d.WellFormed) {fuel : Nat} {p : Path} {place : Place}
    (hp : d.locate cwd true p = .ok (.taken place .directory))
    (lists : ∀ dirs, IsOpen d place dirs → ∃ entries, d.list cwd (p.descend dirs) = .ok entries) :
    walk d cwd suffix fuel p =
      .ok (((found d suffix fuel place).filter fun rel => d.isFile cwd (p.descend rel)).map
        p.descend) := by
  induction fuel generalizing p place with
  | zero => rfl
  | succ fuel ih =>
    obtain ⟨entries, hlist⟩ := lists [] (isOpen_nil d place)
    obtain rfl := list_eq_of_locate hp hlist
    have hlisted : d.list cwd p = .ok (d.sortedChildren place) := hlist
    simp only [walk, hlisted, found, List.filter_flatMap, List.map_flatMap]
    refine collectAll_eq_ok ?_
    rintro ⟨name, node⟩ hchild
    have hnode := wf.mem_children.mp (Disk.mem_sortedChildren.mp hchild)
    have hname := wf.isProper_last hnode
    by_cases hdirectory : node = .directory
    · subst hdirectory
      rw [visit_directory, foundAt_directory]
      cases hshown : isHidden name with
      | true => rfl
      | false =>
        have hopen : ∀ {dirs : Place}, IsOpen d (place ++ [name]) dirs →
            IsOpen d place (name :: dirs) := fun h => isOpen_cons.mpr ⟨hshown, hnode, h⟩
        obtain ⟨_, hbelow⟩ := lists [name] (hopen (isOpen_nil d _))
        have hwalk := ih (locate_child_of_list hname hp hnode hbelow)
          fun dirs h => lists (name :: dirs) (hopen h)
        rw [if_neg Bool.false_ne_true, if_neg Bool.false_ne_true, List.filter_map, List.map_map]
        exact hwalk
    · rw [visit_of_ne_directory _ p name hdirectory, foundAt_of_ne_directory _ place name hdirectory]
      cases hshown : isHidden name with
      | true => rfl
      | false =>
        have hone : p.descend [name] = p.child name := rfl
        cases hfile : d.isFile cwd (p.child name) with
        | true =>
          rw [isFile_of_child hname hp hfile]
          cases hasSuffix suffix name <;> simp [hone, hfile]
        | false =>
          cases hasSuffix suffix name <;> cases d.isFile place ⟨name⟩ <;> simp [hone, hfile]

/-- The files collected below a readable directory are the visible ones, in order. -/
lemma exists_findFiles_eq_ok (wf : d.WellFormed) {directory : Path}
    (readable : IsReadable d cwd suffix directory) :
    ∃ rels : List Place, findFiles d cwd suffix directory = .ok (rels.map directory.descend) ∧
      (∀ rel, rel ∈ rels ↔ IsSource d cwd suffix directory rel) ∧
      rels.Pairwise fun a b => a.map Text.bytes < b.map Text.bytes := by
  unfold findFiles
  by_cases hdirectory : d.isDirectory cwd directory = true
  · obtain ⟨base, hbase⟩ := isDirectory_eq_true_iff.mp hdirectory
    rw [if_pos hdirectory]
    refine ⟨found d suffix (depth d + 1) base, ?_, fun rel => ?_, pairwise_found wf _ _⟩
    · have lists : ∀ dirs, IsOpen d base dirs →
          ∃ entries, d.list cwd (directory.descend dirs) = .ok entries :=
        fun dirs h => readable.lists dirs ⟨base, hbase, h⟩
      rw [walk_eq_ok wf hbase lists, List.filter_eq_self.mpr]
      intro rel hrel
      obtain ⟨-, dirs, name, rfl, hvisible⟩ := (mem_found wf).mp hrel
      obtain ⟨content, hread⟩ := readable.reads _ ⟨base, dirs, name, hbase, rfl, hvisible⟩
      obtain ⟨node, hnode⟩ := Option.isSome_iff_exists.mp hvisible.held
      rw [Path.descend_concat] at hread ⊢
      exact isFile_child (wf.isProper_last hnode) (locate_descend wf hbase lists hvisible.inside)
        hread hvisible.regular
    · rw [mem_found wf, isSource_iff hbase]
      constructor
      · exact fun h => h.2
      · rintro ⟨dirs, name, rfl, hvisible⟩
        exact ⟨Nat.le_succ_of_le hvisible.length_le, dirs, name, rfl, hvisible⟩
  · rw [if_neg hdirectory]
    refine ⟨[], rfl, fun rel => ?_, List.Pairwise.nil⟩
    constructor
    · intro h
      cases h
    · rintro ⟨base, dirs, name, hbase, -⟩
      exact absurd (isDirectory_eq_true_iff.mpr ⟨base, hbase⟩) hdirectory

/-! ### The files of an import -/

/-- Files that can all be read have texts. -/
lemma exists_texts {directory : Path} {rels : List Place}
    (reads : ∀ rel ∈ rels, ∃ content, d.readText cwd (directory.descend rel) = .ok content) :
    ∃ files : List (Place × String), files.map (·.1) = rels ∧
      ∀ f ∈ files, d.readText cwd (directory.descend f.1) = .ok f.2 := by
  induction rels with
  | nil => exact ⟨[], rfl, by simp⟩
  | cons rel rest ih =>
    obtain ⟨content, hcontent⟩ := reads rel (List.mem_cons_self ..)
    obtain ⟨files, hfiles, hread⟩ := ih fun q hq => reads q (List.mem_cons_of_mem _ hq)
    refine ⟨(rel, content) :: files, by rw [List.map_cons, hfiles], fun f hf => ?_⟩
    rcases List.mem_cons.mp hf with rfl | hf
    · exact hcontent
    · exact hread f hf

/-- The source file at a place below a directory. -/
def sourceFile (directory : Path) (f : Place × String) : SourceFile :=
  ⟨(directory.descend f.1).text, f.2⟩

/-- Reading goes through the paths in order and gives each file on its own. -/
lemma readSources_eq_ok {directory : Path} {files : List (Place × String)}
    (read : ∀ f ∈ files, d.readText cwd (directory.descend f.1) = .ok f.2) :
    readSources d cwd ((files.map (·.1)).map directory.descend) =
      .ok (files.map (sourceFile directory)) := by
  induction files with
  | nil => rfl
  | cons f rest ih =>
    have hrest := ih fun g hg => read g (List.mem_cons_of_mem _ hg)
    unfold readSources at hrest ⊢
    simp only [List.map_cons, collectAll, readSource, read f (List.mem_cons_self ..)]
    simp only [readSource] at hrest
    rw [hrest]
    rfl

/-- What is collected and read below a readable directory are its visible files. -/
lemma exists_sources_eq_ok (wf : d.WellFormed) {directory : Path}
    (readable : IsReadable d cwd suffix directory) :
    ∃ files, IsCollection d cwd suffix directory files ∧
      sources d cwd suffix directory = .ok (files.map (sourceFile directory)) := by
  obtain ⟨rels, hfind, hcomplete, hordered⟩ := exists_findFiles_eq_ok wf readable
  obtain ⟨files, rfl, hread⟩ := exists_texts fun rel h => readable.reads rel ((hcomplete rel).mp h)
  refine ⟨files, ⟨hcomplete, hordered, hread⟩, ?_⟩
  rw [sources, hfind]
  exact readSources_eq_ok hread

/-- An accepted import whose directory is readable resolves to nothing exactly if no declaration
file is visible below that directory. Otherwise its entry declares the module with the texts of all
visible declaration files, and lists every visible implementation file on its own. -/
theorem resolveImport_eq_ok (wf : d.WellFormed) {root directory : Path} {name : String}
    (accepted : moduleDirectory? root name = some directory)
    (declared : IsReadable d cwd ".d.ts" directory)
    (implemented : IsReadable d cwd ".js" directory) :
    ∃ declarations impls, IsCollection d cwd ".d.ts" directory declarations ∧
      IsCollection d cwd ".js" directory impls ∧
      ((resolveImport d cwd root name).2 = .ok none ↔
        ∀ rel, ¬IsSource d cwd ".d.ts" directory rel) ∧
      ((∃ rel, IsSource d cwd ".d.ts" directory rel) →
        (resolveImport d cwd root name).2 = .ok (some
          { name := name
            content := "declare module '" ++ name ++ "' \x7b\n" ++
              String.intercalate "\n" (declarations.map (·.2)) ++ "\n\x7d"
            impls := impls.map fun f => ⟨(directory.descend f.1).text, f.2⟩ })) := by
  obtain ⟨declarations, hdeclarations, hdeclared⟩ := exists_sources_eq_ok wf declared
  obtain ⟨impls, himpls, himplemented⟩ := exists_sources_eq_ok wf implemented
  have hresolve : (resolveImport d cwd root name).2 =
      .ok (ManifestEntry.ofFiles? name (declarations.map (sourceFile directory))
        (impls.map (sourceFile directory))) := by
    simp only [resolveImport, accepted, moduleFiles, declarationSuffix, implementationSuffix,
      hdeclared, himplemented]
  have hempty : (∀ rel, ¬IsSource d cwd ".d.ts" directory rel) ↔ declarations = [] := by
    simp only [← hdeclarations.complete]
    rw [← List.eq_nil_iff_forall_not_mem, List.map_eq_nil_iff]
  refine ⟨declarations, impls, hdeclarations, himpls, ?_, fun hsome => ?_⟩
  · rw [hresolve, hempty, Except.ok.injEq, ManifestEntry.ofFiles?_eq_none_iff,
      List.map_eq_nil_iff]
  · have hne : declarations ≠ [] := by
      rintro rfl
      obtain ⟨rel, hrel⟩ := hsome
      exact hempty.mpr rfl rel hrel
    rw [hresolve, ManifestEntry.ofFiles?, if_neg (by simpa using hne), List.map_map]
    rfl

/-- A package directory that is a link, with hidden and nested names, links of every kind, a pipe
and a directory whose names have suffixes, and a directory beside a file whose name it begins. -/
def linkedPackages : Disk :=
  ⟨[(["pkgs"], ⟨.directory, 1, Mode.directory, 0⟩),
    (["pkgs", "lib"], ⟨.link ⟨"../store/.lib"⟩, 2, Mode.unrestricted, 0⟩),
    (["store"], ⟨.directory, 3, Mode.directory, 0⟩),
    (["store", ".lib"], ⟨.directory, 4, Mode.directory, 0⟩),
    (["store", ".lib", "a.d.ts"], ⟨.file "top".toUTF8, 5, Mode.file, 0⟩),
    (["store", ".lib", "a"], ⟨.directory, 6, Mode.directory, 0⟩),
    (["store", ".lib", "a", "b.d.ts"], ⟨.file "nested".toUTF8, 7, Mode.file, 0⟩),
    (["store", ".lib", ".c.d.ts"], ⟨.file "hidden".toUTF8, 8, Mode.file, 0⟩),
    (["store", ".lib", "loop"], ⟨.link ⟨"."⟩, 9, Mode.unrestricted, 0⟩),
    (["store", ".lib", "x.js"], ⟨.pipe, 10, Mode.file, 0⟩),
    (["store", ".lib", "y.js"], ⟨.directory, 11, Mode.directory, 0⟩),
    (["store", ".lib", "y.js", "z.js"], ⟨.link ⟨"../a.d.ts"⟩, 12, Mode.unrestricted, 0⟩),
    (["store", ".lib", "w.js"], ⟨.link ⟨"nowhere"⟩, 13, Mode.unrestricted, 0⟩)], 14, 0⟩

/-- Of such a package, the nested declaration comes before the one beside its directory, and the
implementation is what its link leads to. -/
theorem resolveImport_eq_ok_linked :
    linkedPackages.WellFormed ∧
      moduleDirectory? ⟨"/pkgs"⟩ "lib" = some ⟨"/pkgs/lib"⟩ ∧
      IsReadable linkedPackages [] ".d.ts" ⟨"/pkgs/lib"⟩ ∧
      IsReadable linkedPackages [] ".js" ⟨"/pkgs/lib"⟩ ∧
      ∃ declarations impls, IsCollection linkedPackages [] ".d.ts" ⟨"/pkgs/lib"⟩ declarations ∧
        IsCollection linkedPackages [] ".js" ⟨"/pkgs/lib"⟩ impls ∧
        (resolveImport linkedPackages [] ⟨"/pkgs"⟩ "lib").2 = .ok (some
          { name := "lib"
            content := "declare module 'lib' \x7b\n" ++
              String.intercalate "\n" (declarations.map (·.2)) ++ "\n\x7d"
            impls := impls.map fun f => ⟨(Path.descend ⟨"/pkgs/lib"⟩ f.1).text, f.2⟩ }) := by
  have tree : linkedPackages.WellFormed := by decide +kernel
  have accepted : moduleDirectory? ⟨"/pkgs"⟩ "lib" = some ⟨"/pkgs/lib"⟩ := by decide +kernel
  have base : linkedPackages.locate [] true ⟨"/pkgs/lib"⟩ =
      .ok (.taken ["store", ".lib"] .directory) := by rfl
  have declared : IsReadable linkedPackages [] ".d.ts" ⟨"/pkgs/lib"⟩ :=
    isReadable_of_entries base (by decide +kernel) (by decide +kernel) (by decide +kernel)
  have implemented : IsReadable linkedPackages [] ".js" ⟨"/pkgs/lib"⟩ :=
    isReadable_of_entries base (by decide +kernel) (by decide +kernel) (by decide +kernel)
  obtain ⟨declarations, impls, hdeclarations, himpls, -, hsome⟩ :=
    resolveImport_eq_ok tree accepted declared implemented
  have source : IsSource linkedPackages [] ".d.ts" ⟨"/pkgs/lib"⟩ ["a.d.ts"] :=
    ⟨_, [], "a.d.ts", base, rfl, isOpen_nil _ _, rfl, rfl, rfl, rfl⟩
  exact ⟨tree, accepted, declared, implemented, declarations, impls, hdeclarations, himpls,
    hsome ⟨_, source⟩⟩

end SnippetForge.Discovery
