import SnippetForge.Proofs.Disk.Parents
import SnippetForge.Proofs.Json.OneLine
import SnippetForge.Proofs.Json.Records
import SnippetForge.Proofs.Staging.Areas
import SnippetForge.Webpack.Toolchain

/-!
# Bundle requests

A request says where things are twice. It names paths, and who reads it takes from these the directory
of the entry and the path of the bundle; the staging area knows both on its own. For the request that
is made for an entry in an area the two agree, and everything that it names is inside the area and
means the same from every directory.

On the way to the toolchain a request is one line of text in a variable. No control character is in
that text, and reading it gives the request back, whatever the paths and patterns in it are.

The directory of the entry is found by taking the parent of a path. That is right for every entry that
is given by more than its bare name. For a bare name it is the empty path, which leads nowhere, and the
directory `.` that is meant to stand in is never used.
-/

namespace SnippetForge

/-- A path is inside a directory if its components are those of the directory and names after
them. -/
def Path.IsInside (p directory : Path) : Prop :=
  ∃ names : List String, names ≠ [] ∧ p.components = directory.components ++ names.map .name

/-! ### Requests as JSON -/

/-- The truth value of a boolean. -/
def Json.bool? : Json → Option Bool
  | .bool b => some b
  | _ => none

/-- The rule that a JSON value describes. -/
def TranspileRule.ofJson? (v : Json) : Option TranspileRule :=
  match v.fields? ["test", "loader", "configFile", "exclude"] with
  | some [test, loader, configFile, exclude] =>
    match Json.required? Json.text? test, Json.required? Json.text? loader,
        Json.required? Json.text? configFile, Json.required? Json.text? exclude with
    | some test, some loader, some configFile, some exclude =>
      some ⟨test, loader, ⟨configFile⟩, exclude⟩
    | _, _, _, _ => none
  | _ => none

lemma TranspileRule.isFaithful : Json.IsFaithful TranspileRule.toJson TranspileRule.ofJson? where
  isPrintable r := Json.isPrintable_record (by simp [Json.isPrintable_ofText])
  ofJson?_toJson r := by
    have hfields : r.toJson.fields? ["test", "loader", "configFile", "exclude"]
        = some [some (Json.ofText r.test), some (Json.ofText r.loader),
          some (Json.ofText r.configFile.text), some (Json.ofText r.exclude)] :=
      Json.fields?_record (by simp)
    rw [TranspileRule.ofJson?, hfields]
    rfl

namespace Request

/-- The request that a JSON value describes. -/
def ofJson? (v : Json) : Option Request :=
  match v.fields? ["entry", "outputDir", "outputFile", "transpile", "resolveExtensions",
    "minimize"] with
  | some [entry, outputDirectory, outputFile, transpile, resolveExtensions, minimize] =>
    match Json.required? Json.text? entry, Json.required? Json.text? outputDirectory,
        Json.required? Json.text? outputFile, Json.required? TranspileRule.ofJson? transpile,
        Json.required? Json.texts? resolveExtensions, Json.required? Json.bool? minimize with
    | some entry, some outputDirectory, some outputFile, some transpile, some resolveExtensions,
        some minimize =>
      some ⟨⟨entry⟩, ⟨outputDirectory⟩, outputFile, transpile, resolveExtensions, minimize⟩
    | _, _, _, _, _, _ => none
  | _ => none

lemma isFaithful : Json.IsFaithful toJson ofJson? where
  isPrintable r := by
    have hrule := TranspileRule.isFaithful.isPrintable r.transpile
    exact Json.isPrintable_record
      (by simp [Json.isPrintable_ofText, Json.isPrintable_ofTexts, hrule, Json.IsPrintable])
  ofJson?_toJson r := by
    have hfields : r.toJson.fields? ["entry", "outputDir", "outputFile", "transpile",
        "resolveExtensions", "minimize"]
        = some [some (Json.ofText r.entry.text), some (Json.ofText r.outputDirectory.text),
          some (Json.ofText r.outputFile), some r.transpile.toJson,
          some (Json.ofTexts r.resolveExtensions), some (.bool r.minimize)] :=
      Json.fields?_record (by simp)
    have hrule := TranspileRule.isFaithful.ofJson?_toJson r.transpile
    rw [ofJson?, hfields]
    simp [Json.required?, Json.text?, Json.ofText, Json.texts?_ofTexts, Json.bool?, hrule]

/-- A request is carried by an environment: the variable for it has one value, a text without control
characters that is read back as the request. -/
def IsCarriedBy (r : Request) (environment : List (String × String)) : Prop :=
  ∃ text, (∀ value, (Webpack.requestVariable, value) ∈ environment ↔ value = text) ∧
    (∀ c ∈ text.toList, 0x20 ≤ c.toNat) ∧ (Json.parse? text).bind ofJson? = some r

lemma isCarriedBy_environmentFor (r : Request) (w : World) :
    r.IsCarriedBy (Webpack.environmentFor w r) := by
  refine ⟨r.toJson.compact, fun value => ?_, ?_, ?_⟩
  · simp [Webpack.environmentFor]
  · rw [Json.compact, String.toList_ofList]
    exact Json.areVisible_compactChars (isFaithful.isPrintable r)
  · rw [Json.parse?_compact (isFaithful.isPrintable r)]
    exact isFaithful.ofJson?_toJson r

/-! ### Requests for an entry in an area -/

/-- A request and an area lay things out in the same way, and all of it is inside the area. -/
structure FitsIn (r : Request) (area : StagingArea) : Prop where
  directory : r.directory = area.path
  bundlePath : r.bundlePath = area.bundlePath
  absolute : r.entry.isAbsolute = true ∧ r.bundlePath.isAbsolute = true
  distinct : r.entry ≠ r.bundlePath
  inside : r.entry.IsInside area.path ∧ r.bundlePath.IsInside area.path
  apart : ¬r.entry.components <+: r.bundlePath.components
  /-- From whatever directory they are looked at, the paths lead to the same. -/
  anywhere : ∀ (d : Disk) (followLast : Bool) (cwd cwd' : Place),
    d.locate cwd followLast r.entry = d.locate cwd' followLast r.entry ∧
      d.locate cwd followLast r.bundlePath = d.locate cwd' followLast r.bundlePath

section Layout

open StagingArea

variable {area : StagingArea} {settings : Settings} {tag : String}

/-- The directory of the entry of an area is that of the area. -/
lemma directory_ofEntry (parent : Place) {random : String} (hrandom : '/' ∉ random.toList) :
    (ofEntry ((below parent random).entryPath (.ofTag tag)) (below parent random) settings).directory
      = (below parent random).path := by
  have hparent : ((below parent random).entryPath (.ofTag tag)).parent? =
      some (below parent random).path :=
    Path.parent?_child_child parent.path (isProper_directoryName hrandom)
      (EntryExtension.isProper_fileName tag)
  rw [directory, ofEntry, hparent, Option.getD_some]

lemma entry_ofEntry (area : StagingArea) (settings : Settings) (tag : String) :
    (ofEntry (area.entryPath (.ofTag tag)) area settings).entry =
      area.path.descend [(EntryExtension.ofTag tag).fileName] := by
  simp only [ofEntry, entryPath, Path.descend, List.foldl_cons, List.foldl_nil]

lemma bundlePath_ofEntry (entry : Path) (area : StagingArea) (settings : Settings) :
    (ofEntry entry area settings).bundlePath = area.path.descend [outputName, bundleName] := by
  simp only [bundlePath, ofEntry, StagingArea.outputDirectory, Path.descend, List.foldl_cons,
    List.foldl_nil]

lemma isProper_entryNames (tag : String) :
    ∀ n ∈ [(EntryExtension.ofTag tag).fileName], IsProper n := by
  simpa using EntryExtension.isProper_fileName tag

lemma isProper_bundleNames : ∀ n ∈ [outputName, bundleName], IsProper n := by
  simp only [List.mem_cons, List.not_mem_nil, or_false, forall_eq_or_imp, forall_eq]
  exact ⟨isProper_outputName, isProper_bundleName⟩

/-- The request for the entry of an area fits in the area. -/
lemma fitsIn_below (parent : Place) {random : String} (hrandom : '/' ∉ random.toList) (tag : String)
    (settings : Settings) :
    (ofEntry ((below parent random).entryPath (.ofTag tag)) (below parent random) settings).FitsIn
      (below parent random) := by
  have habs := isAbsolute_below parent hrandom
  have entryAbsolute := Path.isAbsolute_descend (isProper_entryNames tag) habs
  have bundleAbsolute := Path.isAbsolute_descend isProper_bundleNames habs
  have entryComponents := Path.components_descend (below parent random).path
    (isProper_entryNames tag)
  have bundleComponents := Path.components_descend (below parent random).path isProper_bundleNames
  rw [← entry_ofEntry _ settings] at entryAbsolute entryComponents
  rw [← bundlePath_ofEntry (entryPath _ (.ofTag tag)) _ settings] at bundleAbsolute bundleComponents
  have hdirectory := @directory_ofEntry settings tag parent _ hrandom
  have hbundle : (ofEntry ((below parent random).entryPath (.ofTag tag)) (below parent random)
      settings).bundlePath = (below parent random).bundlePath := rfl
  generalize ofEntry ((below parent random).entryPath (.ofTag tag)) (below parent random) settings
    = r at *
  have apart : ¬r.entry.components <+: r.bundlePath.components := by
    rw [entryComponents, bundleComponents, List.prefix_append_right_inj]
    simpa [List.cons_prefix_cons] using fileName_ne_outputName tag
  exact {
    directory := hdirectory
    bundlePath := hbundle
    absolute := ⟨entryAbsolute, bundleAbsolute⟩
    distinct := fun heq => apart (heq ▸ List.prefix_rfl)
    inside := ⟨⟨_, List.cons_ne_nil _ _, entryComponents⟩, ⟨_, List.cons_ne_nil _ _, bundleComponents⟩⟩
    apart := apart
    anywhere := fun d _ cwd cwd' => ⟨Disk.locate_of_absolute entryAbsolute cwd cwd',
      Disk.locate_of_absolute bundleAbsolute cwd cwd'⟩ }

end Layout

/-- Wherever an area has been made and whatever has become of the disk, if its entry can be written,
the request for that entry fits in the area. Every request is carried by the environment that the
toolchain is started with. -/
theorem fits_and_is_carried :
    (∀ (names : Nat → String) (d₀ d₁ : Disk) (cwd₀ : Place) (root : Path) (drawn drawn' : Nat)
      (area : StagingArea), (∀ n, '/' ∉ (names n).toList) →
      StagingArea.create d₀ cwd₀ root names drawn = (drawn', .ok (area, d₁)) →
      ∀ (d d' : Disk) (cwd : Place) (tag source : String) (entry : Path),
        area.writeEntry d cwd (.ofTag tag) source = .ok (entry, d') →
        ∀ settings : Settings, (ofEntry entry area settings).FitsIn area) ∧
    ∀ (r : Request) (w : World), r.IsCarriedBy (Webpack.environmentFor w r) := by
  refine ⟨?_, isCarriedBy_environmentFor⟩
  intro names d₀ d₁ cwd₀ root drawn drawn' area slashless created d d' cwd tag source entry written
    settings
  obtain ⟨parent, n, rfl⟩ := StagingArea.exists_below_of_create created
  obtain rfl := StagingArea.eq_entryPath_of_writeEntry written
  exact fitsIn_below parent (slashless n) tag settings

/-- A disk with a directory for staging in which a link leads to the directory above. -/
def crossedDisk : Disk :=
  ⟨[(["tmp"], ⟨.directory, 1, Mode.directory, 0⟩),
    (["tmp", "up"], ⟨.link ⟨".."⟩, 2, Mode.unrestricted, 0⟩)], 3, 0⟩

/-- An area of a relative root that has dots and a link in it. -/
theorem fits_and_is_carried_crossed :
    ∃ area d₁ entry d', StagingArea.create crossedDisk ["tmp"] ⟨"./up/tmp/../tmp"⟩
        (fun _ => "aaaaaa") 0 = (1, .ok (area, d₁)) ∧
      area.writeEntry d₁ ["tmp"] (.ofTag "../x") "let a;" = .ok (entry, d') ∧
      entry = ⟨"/tmp/codeblock-aaaaaa/index.js"⟩ ∧
      (ofEntry entry area .standard).FitsIn area ∧
      (ofEntry entry area .standard).IsCarriedBy
        (Webpack.environmentFor (.fresh d' ["tmp"] [("PATH", "/bin")] fun _ => "aaaaaa")
          (ofEntry entry area .standard)) := by
  have created : StagingArea.create crossedDisk ["tmp"] ⟨"./up/tmp/../tmp"⟩ (fun _ => "aaaaaa") 0 =
      (1, .ok (.below ["tmp"] "aaaaaa",
        crossedDisk.add ["tmp", "codeblock-aaaaaa"] .directory Mode.secluded)) := by
    decide +kernel
  obtain ⟨d', written⟩ : ∃ d', (StagingArea.below ["tmp"] "aaaaaa").writeEntry
      (crossedDisk.add ["tmp", "codeblock-aaaaaa"] .directory Mode.secluded) ["tmp"]
      (.ofTag "../x") "let a;" = .ok (⟨"/tmp/codeblock-aaaaaa/index.js"⟩, d') :=
    ⟨(crossedDisk.add ["tmp", "codeblock-aaaaaa"] .directory Mode.secluded).add
      ["tmp", "codeblock-aaaaaa", "index.js"] (.file "let a;".toUTF8) Mode.file, by decide +kernel⟩
  have slashless : ∀ n, '/' ∉ ((fun _ => "aaaaaa" : Nat → String) n).toList :=
    fun _ => (by decide : '/' ∉ "aaaaaa".toList)
  obtain ⟨fits, carried⟩ := fits_and_is_carried
  exact ⟨_, _, _, d', created, written, rfl,
    fits _ _ _ _ _ _ _ _ slashless created _ _ _ _ _ _ written _, carried _ _⟩

/-! ### The directory of an entry -/

/-- The directory of an entry that ends in a name has the components before that name. Where the entry
leads to something it leads to the directory that holds it, unless the entry is a bare name. Then it
is the empty path, which leads nowhere. -/
theorem directory_of_named_entry {r : Request} {name : String} (h : r.entry.fileName? = some name) :
    r.directory.components ++ [.name name] = r.entry.components ∧
    (r.directory.text = "" ↔ r.entry.components = [.name name]) ∧
    (r.directory.text ≠ "" → ∀ (d : Disk) (cwd : Place) (followLast : Bool) (spot : Disk.Spot),
      d.locate cwd followLast r.entry = .ok spot →
        ∃ place, d.locateNode cwd true r.directory = .ok (place, .directory) ∧
          (spot = .free place name ∨ (d.node? (place ++ [name])).isSome)) ∧
    (r.directory.text = "" → ∀ (d : Disk) (cwd : Place) (followLast : Bool),
      d.locate cwd followLast r.directory = .error (.system .noEntry)) := by
  obtain ⟨parent, hparent, entry⟩ := Path.exists_parent h
  have hdirectory : r.directory = parent := by rw [directory, hparent, Option.getD_some]
  rw [hdirectory]
  refine ⟨entry.components.symm, ?_, fun hne d cwd followLast spot located =>
    Disk.exists_directory_of_locate entry hne located, fun hempty d cwd followLast => ?_⟩
  · rw [← Path.components_eq_nil_iff, entry.components]
    simp
  · simp [Disk.locate, hempty]

/-- A disk with a file in a directory and one in the root. -/
def scriptDisk : Disk :=
  ⟨[(["src"], ⟨.directory, 1, Mode.directory, 0⟩),
    (["src", "index.ts"], ⟨.file "let a;".toUTF8, 2, Mode.file, 0⟩),
    (["index.js"], ⟨.file "let b;".toUTF8, 3, Mode.file, 0⟩)], 4, 0⟩

/-- The request for an entry with standard settings. -/
def forEntry (entry : Path) : Request :=
  ofEntry entry ⟨⟨"/s"⟩⟩ .standard

/-- An entry that is spelled with more slashes and dots than it needs. -/
theorem directory_of_named_entry_spelled_out :
    (forEntry ⟨"./src//./index.ts"⟩).entry.fileName? = some "index.ts" ∧
      (forEntry ⟨"./src//./index.ts"⟩).directory = ⟨"./src"⟩ ∧
      (forEntry ⟨"./src//./index.ts"⟩).directory.components ++ [.name "index.ts"] =
        (forEntry ⟨"./src//./index.ts"⟩).entry.components ∧
      ∃ place, scriptDisk.locateNode [] true (forEntry ⟨"./src//./index.ts"⟩).directory =
        .ok (place, .directory) := by
  have named : (forEntry ⟨"./src//./index.ts"⟩).entry.fileName? = some "index.ts" := by
    decide +kernel
  have directory : (forEntry ⟨"./src//./index.ts"⟩).directory = ⟨"./src"⟩ := by decide +kernel
  have located : scriptDisk.locateNode [] true (forEntry ⟨"./src//./index.ts"⟩).entry =
      .ok (["src", "index.ts"], .file "let a;".toUTF8) := by
    decide +kernel
  obtain ⟨components, -, opened, -⟩ := directory_of_named_entry named
  obtain ⟨place, hplace, -⟩ :=
    opened (by rw [directory]; decide) _ _ _ _ (Disk.locateNode_eq_ok_iff.mp located)
  exact ⟨named, directory, components, place, hplace⟩

/-- The directory of a bare name cannot be opened, although the entry can. -/
theorem directory_of_bare_entry :
    (forEntry ⟨"index.js"⟩).entry.fileName? = some "index.js" ∧
      (forEntry ⟨"index.js"⟩).directory.text = "" ∧
      scriptDisk.locateNode [] true (forEntry ⟨"index.js"⟩).entry =
        .ok (["index.js"], .file "let b;".toUTF8) ∧
      scriptDisk.locateNode [] true (forEntry ⟨"index.js"⟩).directory =
        .error (.system .noEntry) := by
  decide +kernel

end Request

end SnippetForge
