import SnippetForge.Proofs.CommandLine.Exchange
import SnippetForge.Proofs.Webpack.Repetition

/-!
# The two ways to show a bundle

The command that compiles shows its bundle as it is or as JSON. Which of the two is asked for makes
no difference to the compilation, and the two exits tell the same. They tell the same of two
compilations in two worlds with the same files, too, as long as the program behaves the same in
both: it then fails in both or in neither, with the same error but for the name of the area, and what
is read back from the JSON is the code, the diagnostics and the extension that the other way shows.

`Compiles` is what a compilation from the command line comes to, however many steps it takes.
-/

namespace SnippetForge

/-! ### Printed bundles -/

/-- The substitution of a name in JSON. -/
def Substitution.ofKey? (s : String) : Option Substitution :=
  if s = "literal_tag" then some .literalTag
  else if s = "default" then some .default
  else none

/-- The substitution in a JSON value, which is null if there is none. -/
def Substitution.ofJson? : Json → Option (Option Substitution)
  | .null => some none
  | v => (v.text?.bind ofKey?).map some

/-- The extension that a JSON value describes. -/
def EntryExtension.ofJson? (v : Json) : Option EntryExtension :=
  match v.fields? ["extension", "fallback"] with
  | some [extension, fallback] =>
    match Json.required? Json.text? extension, Json.required? Substitution.ofJson? fallback with
    | some extension, some fallback => some ⟨extension, fallback⟩
    | _, _ => none
  | _ => none

/-- The fallback of an extension is printed as a value that is read back. -/
lemma EntryExtension.exists_toJson_eq (e : EntryExtension) :
    ∃ v : Json, e.toJson = Json.record [("extension", Json.ofText e.extension), ("fallback", v)] ∧
      v.IsPrintable ∧ Substitution.ofJson? v = some e.fallback := by
  rcases e with ⟨extension, - | - | -⟩ <;> exact ⟨_, rfl, trivial, rfl⟩

lemma EntryExtension.isFaithful : Json.IsFaithful EntryExtension.toJson EntryExtension.ofJson? where
  isPrintable e := by
    obtain ⟨v, heq, hprintable, -⟩ := e.exists_toJson_eq
    rw [heq]
    exact Json.isPrintable_record (by simp [Json.isPrintable_ofText, hprintable])
  ofJson?_toJson e := by
    obtain ⟨v, heq, -, hread⟩ := e.exists_toJson_eq
    have hfields : e.toJson.fields? ["extension", "fallback"] =
        some [some (Json.ofText e.extension), some v] := by
      rw [heq]
      exact Json.fields?_record (by simp)
    rw [EntryExtension.ofJson?, hfields]
    simp [Json.required?, Json.text?, Json.ofText, hread]

namespace Bundle

/-- What a JSON text tells of a bundle, the time apart: its code, its extension and its
diagnostics. -/
def shownIn? (text : String) : Option (String × EntryExtension × List Diagnostic) :=
  match (Json.parse? text).bind (Json.fields? ["code", "extension", "diagnostics",
    "compile_time_ms"]) with
  | some [code, extension, diagnostics, _] =>
    match Json.required? Json.text? code, Json.required? EntryExtension.ofJson? extension,
      Json.required? (Json.list? Diagnostic.ofJson?) diagnostics with
    | some code, some extension, some diagnostics => some (code, extension, diagnostics)
    | _, _, _ => none
  | _ => none

lemma isPrintable_toJson (b : Bundle) : b.toJson.IsPrintable := by
  have hdiagnostics := Diagnostic.isFaithful.list.isPrintable b.diagnostics
  exact Json.isPrintable_record (by
    simp [Json.isPrintable_ofText, Json.isPrintable_ofNat, EntryExtension.isFaithful.isPrintable,
      hdiagnostics])

/-- A printed bundle tells its code, its extension and its diagnostics. -/
lemma shownIn?_pretty_line (b : Bundle) :
    shownIn? (b.toJson.pretty ++ "\n") = some (b.code, b.extension, b.diagnostics) := by
  have hfields : b.toJson.fields? ["code", "extension", "diagnostics", "compile_time_ms"] =
      some [some (Json.ofText b.code), some b.extension.toJson,
        some (.array (b.diagnostics.map Diagnostic.toJson)), some (Json.ofNat b.elapsed)] :=
    Json.fields?_record (by simp)
  have hdiagnostics := Diagnostic.isFaithful.list.ofJson?_toJson b.diagnostics
  rw [shownIn?, Json.parse?_pretty_line b.isPrintable_toJson, Option.bind_some, hfields]
  simp [Json.required?, Json.text?, Json.ofText, EntryExtension.isFaithful.ofJson?_toJson,
    hdiagnostics]

end Bundle

namespace CommandLine

open Compilation (isCancelled ResultsAlike SameButName)
open Webpack (BehavesAlike)

/-! ### What a compilation comes to -/

/-- The settings of a compilation from the command line. -/
def settingsFor (projectRoot : Path) (node : Option Path) : Settings :=
  { Settings.forProject projectRoot with nodePath := node }

/-- The world in which a command starts its compilation: an interrupting signal cancels it. -/
def prepared (w : World) : World :=
  (w.withTokens (w.tokens.add none).1).interruptBy (w.tokens.add none).2

/-- The options of the compilation that a command starts. -/
def optionsIn (w : World) (timeoutSecs : Nat) : CompileOptions :=
  ⟨limitOf timeoutSecs, some (w.tokens.add none).2⟩

/-- Nobody has cancelled a compilation before it is started. -/
lemma isCancelled_prepared (w : World) (timeoutSecs : Nat) :
    isCancelled (prepared w) (optionsIn w timeoutSecs) = false := by
  simp [isCancelled, prepared, optionsIn, World.interruptBy, World.withTokens, Tokens.add,
    Tokens.isFired, Tokens.isFiredWithin]

section

variable (w : World) (source : Path) (language : String) (projectRoot : Path) (node : Option Path)
  (timeoutSecs : Nat)

/-- What the compilation of the snippet in a file comes to. -/
inductive Compiles : Except CommandError Bundle → Prop
  /-- The file cannot be read. -/
  | unreadable {fault : Fault} (unread : w.disk.readText w.cwd source = .error fault) :
      Compiles (.error (.failedTo ("failed to read " ++ source.text) fault.message))
  /-- There is no program to run. -/
  | programless {text : String} {failure : Failure}
      (read : w.disk.readText w.cwd source = .ok text)
      (missing : Webpack.programOf w (settingsFor projectRoot node) = .error failure) :
      Compiles (.error (.failure failure))
  /-- The compilation is started, and comes to its outcome. -/
  | started {text : String} {program : Path} {stage : Compilation.Stage} {w' : World}
      {result : Except Failure Bundle} (read : w.disk.readText w.cwd source = .ok text)
      (found : Webpack.programOf w (settingsFor projectRoot node) = .ok program)
      (outcome : Compilation.Outcome (.webpack program projectRoot) (settingsFor projectRoot node)
        text language (optionsIn w timeoutSecs) (prepared w) stage w' result) :
      Compiles (result.mapError .failure)

end

variable {w v : World} {source : Path} {language : String} {projectRoot : Path}
  {node : Option Path} {timeoutSecs : Nat}

/-- What the compilation of a file gives once the snippet and the program have been found. -/
lemma compileFile_found {text : String} {program : Path}
    (read : w.disk.readText w.cwd source = .ok text)
    (found : Webpack.programOf w (settingsFor projectRoot node) = .ok program) (steps : Nat) :
    compileFile steps w source language projectRoot node timeoutSecs =
      match (Compilation.new (settingsFor projectRoot node) text language
        (optionsIn w timeoutSecs)).run (.webpack program projectRoot) steps (prepared w) with
      | .error w => .error w
      | .ok (w, .error failure) => .ok (w, .error (.failure failure))
      | .ok (w, .ok bundle) => .ok (w.report (.info ("Compiled " ++ source.text ++ " in " ++
          toString bundle.elapsed ++ "ms")), .ok bundle) := by
  rw [settingsFor] at found
  simp only [compileFile, read, found]
  rfl

/-- What the compilation of a file gives is what it comes to. -/
lemma compiles_of_compileFile {steps : Nat} {after : World} {answer : Except CommandError Bundle}
    (h : compileFile steps w source language projectRoot node timeoutSecs = .ok (after, answer)) :
    Compiles w source language projectRoot node timeoutSecs answer := by
  cases hread : w.disk.readText w.cwd source with
  | error fault =>
    simp only [compileFile, hread] at h
    cases h
    exact .unreadable hread
  | ok text =>
    cases hfound : Webpack.programOf w (settingsFor projectRoot node) with
    | error failure =>
      have hmissing := hfound
      rw [settingsFor] at hfound
      simp only [compileFile, hread, hfound] at h
      cases h
      exact .programless hread hmissing
    | ok program =>
      rw [compileFile_found hread hfound] at h
      split at h
      · cases h
      · next w' failure hrun =>
        cases h
        obtain ⟨stage, outcome⟩ := Compilation.exists_outcome_of_ends (Compilation.ends_of_run hrun)
        exact .started hread hfound outcome
      · next w' bundle hrun =>
        cases h
        obtain ⟨stage, outcome⟩ := Compilation.exists_outcome_of_ends (Compilation.ends_of_run hrun)
        exact .started hread hfound outcome

/-- What the compilation of a file comes to it gives with enough steps. -/
lemma Compiles.exists_compileFile {answer : Except CommandError Bundle}
    (h : Compiles w source language projectRoot node timeoutSecs answer) :
    ∃ steps after, compileFile steps w source language projectRoot node timeoutSecs =
      .ok (after, answer) := by
  cases h with
  | unreadable unread => exact ⟨0, w, by simp only [compileFile, unread]⟩
  | programless read missing =>
    rw [settingsFor] at missing
    exact ⟨0, w, by simp only [compileFile, read, missing]⟩
  | @started _ _ _ w' result read found outcome =>
    obtain ⟨steps, hrun⟩ := Compilation.exists_run_of_ends outcome.ends
    cases result with
    | error failure => exact ⟨steps, w', by rw [compileFile_found read found, hrun]; rfl⟩
    | ok bundle => exact ⟨steps, _, by rw [compileFile_found read found, hrun]; rfl⟩

/-- A compilation comes to one answer at most. -/
lemma Compiles.unique {answer answer' : Except CommandError Bundle}
    (h : Compiles w source language projectRoot node timeoutSecs answer)
    (h' : Compiles w source language projectRoot node timeoutSecs answer') : answer' = answer := by
  cases h with
  | unreadable unread =>
    cases h' with
    | unreadable unread' => rw [Except.error.inj (unread.symm.trans unread')]
    | programless read _ => cases unread.symm.trans read
    | started read _ _ => cases unread.symm.trans read
  | programless read missing =>
    cases h' with
    | unreadable unread => cases unread.symm.trans read
    | programless _ missing' => rw [Except.error.inj (missing.symm.trans missing')]
    | started _ found _ => cases missing.symm.trans found
  | started read found outcome =>
    cases h' with
    | unreadable unread => cases unread.symm.trans read
    | programless _ missing => cases missing.symm.trans found
    | started read' found' outcome' =>
      obtain rfl := Except.ok.inj (read.symm.trans read')
      obtain rfl := Except.ok.inj (found.symm.trans found')
      rw [(outcome.ends.unique outcome'.ends).2]

/-! ### The same compilation in two worlds -/

/-- Two errors are the same but for the name of an area. -/
inductive ErrorsAlike : CommandError → CommandError → Prop
  | same (error : CommandError) : ErrorsAlike error error
  | renamed {parent : Place} {random random' : String} {f g : Failure}
      (lettered : StagingArea.IsRandomPart random) (lettered' : StagingArea.IsRandomPart random')
      (alike : Failure.SameBut (StagingArea.below parent random).path
        (StagingArea.below parent random').path f g) :
      ErrorsAlike (.failure f) (.failure g)

/-- Two answers are the same but for the name of an area and for the time that has been measured. -/
inductive AnswersAlike : Except CommandError Bundle → Except CommandError Bundle → Prop
  | failed {e e' : CommandError} (alike : ErrorsAlike e e') : AnswersAlike (.error e) (.error e')
  | bundled (bundle : Bundle) (elapsed : Nat) :
      AnswersAlike (.ok bundle) (.ok { bundle with elapsed := elapsed })

lemma AnswersAlike.refl (answer : Except CommandError Bundle) : AnswersAlike answer answer := by
  cases answer with
  | error e => exact .failed (.same e)
  | ok bundle => exact .bundled bundle bundle.elapsed

/-- Results that differ only by the name of an area give answers that do. -/
lemma answersAlike_of_sameButName {result result' : Except Failure Bundle}
    (h : SameButName result result') :
    AnswersAlike (result.mapError .failure) (result'.mapError .failure) := by
  obtain ⟨parent, random, random', lettered, lettered', alike⟩ := h
  cases alike with
  | failed alike => exact .failed (.renamed lettered lettered' alike)
  | bundled bundle elapsed => exact .bundled bundle elapsed

/-- In two worlds with the same files the program is the same. -/
lemma programOf_eq (same : w.Resembles projectRoot v) (settings : Settings) :
    Webpack.programOf v settings = Webpack.programOf w settings := by
  have hexecutable : ∀ p, v.disk.isExecutable w.cwd p = w.disk.isExecutable w.cwd p :=
    Disk.isExecutable_congr same.disk w.cwd
  simp only [Webpack.programOf, Webpack.findProgram, World.home?, World.searchPath, same.cwd,
    same.environment, hexecutable]

/-- The worlds in which the compilations of two commands are started have the same files if the
worlds of the commands have. -/
lemma resembles_prepared (same : w.Resembles projectRoot v) :
    (prepared w).Resembles projectRoot (prepared v) :=
  { same with }

/-- The program behaves the same in the compilation of a file in two worlds. -/
def BehavesAlikeOn (source : Path) (language : String) (projectRoot : Path) (node : Option Path)
    (timeoutSecs : Nat) (w v : World) : Prop :=
  ∀ text program, w.disk.readText w.cwd source = .ok text →
    Webpack.programOf w (settingsFor projectRoot node) = .ok program →
    BehavesAlike program projectRoot (settingsFor projectRoot node) text language
      (optionsIn w timeoutSecs) (optionsIn v timeoutSecs) (prepared w) (prepared v)

/-- In two worlds with the same files every file says the same. -/
lemma readText_eq (same : w.Resembles projectRoot v) (p : Path) :
    v.disk.readText v.cwd p = w.disk.readText w.cwd p := by
  rw [same.cwd]
  exact Disk.readText_congr same.disk w.cwd p

lemma BehavesAlikeOn.symm (same : w.Resembles projectRoot v)
    (h : BehavesAlikeOn source language projectRoot node timeoutSecs w v) :
    BehavesAlikeOn source language projectRoot node timeoutSecs v w := by
  intro text program read found
  rw [readText_eq same] at read
  rw [programOf_eq same] at found
  exact (h text program read found).symm

/-- What the compilation of a file comes to in a world it comes to in every other one with the same
files in which the program behaves the same. -/
lemma Compiles.exists_alike {answer : Except CommandError Bundle}
    (same : w.Resembles projectRoot v)
    (behaves : BehavesAlikeOn source language projectRoot node timeoutSecs w v)
    (h : Compiles w source language projectRoot node timeoutSecs answer) :
    ∃ answer', Compiles v source language projectRoot node timeoutSecs answer' ∧
      AnswersAlike answer answer' := by
  have hread := readText_eq same source
  have hprogram := programOf_eq same (settingsFor projectRoot node)
  cases h with
  | unreadable unread => exact ⟨_, .unreadable (hread.trans unread), .refl _⟩
  | programless read missing =>
    exact ⟨_, .programless (hread.trans read) (hprogram.trans missing), .refl _⟩
  | started read found outcome =>
    have hlimits : (optionsIn v timeoutSecs).limit = (optionsIn w timeoutSecs).limit := rfl
    obtain ⟨stage', v', result', houtcome, halike⟩ :=
      Webpack.exists_outcome_alike (resembles_prepared same) hlimits
        (isCancelled_prepared w timeoutSecs) (isCancelled_prepared v timeoutSecs)
        (behaves _ _ read found) outcome
    exact ⟨_, .started (hread.trans read) (hprogram.trans found) houtcome,
      answersAlike_of_sameButName halike⟩

/-! ### Exits -/

/-- The program, run with some arguments, comes to an exit of its own accord. -/
def Exits (w : World) (arguments : List String) (exit : Exit) : Prop :=
  ∃ steps after, runWithin steps w arguments = some (after, exit) ∧ ∃ n, exit.status = .code n

variable {arguments : List String} {json verbose : Bool}

/-- What the command that compiles does. -/
lemma runWithin_compile (command : parse arguments =
    .ok ⟨.compile source language projectRoot node timeoutSecs json, verbose⟩) (steps : Nat)
    (w : World) : runWithin steps w arguments =
      match compileFile steps w source language projectRoot node timeoutSecs with
      | .ok (after, answer) =>
        some (after, exitOf (shownSince w after verbose) (answer.map (render json)))
      | .error after =>
        after.ended.map fun s => (after, ⟨.signal s, "", shownSince w after verbose, ""⟩) := by
  rw [runWithin, command]
  dsimp only [perform, compile]
  cases compileFile steps w source language projectRoot node timeoutSecs <;> rfl

/-- An exit of the command that compiles shows what the compilation comes to. -/
lemma exists_answer_of_exits {exit : Exit} (command : parse arguments =
    .ok ⟨.compile source language projectRoot node timeoutSecs json, verbose⟩)
    (h : Exits w arguments exit) :
    ∃ answer log, Compiles w source language projectRoot node timeoutSecs answer ∧
      exit = exitOf log (answer.map (render json)) := by
  obtain ⟨steps, after, hrun, n, hstatus⟩ := h
  rw [runWithin_compile command] at hrun
  split at hrun
  · next after answer hfile =>
    obtain ⟨-, rfl⟩ := Prod.mk.inj (Option.some.inj hrun)
    exact ⟨answer, _, compiles_of_compileFile hfile, rfl⟩
  · obtain ⟨s, -, hexit⟩ := Option.map_eq_some_iff.mp hrun
    obtain ⟨-, rfl⟩ := Prod.mk.inj hexit
    cases hstatus

/-- What a compilation comes to is shown by an exit of the command. -/
lemma Compiles.exists_exits {answer : Except CommandError Bundle} (command : parse arguments =
    .ok ⟨.compile source language projectRoot node timeoutSecs json, verbose⟩)
    (h : Compiles w source language projectRoot node timeoutSecs answer) :
    ∃ log, Exits w arguments (exitOf log (answer.map (render json))) := by
  obtain ⟨steps, after, hfile⟩ := h.exists_compileFile
  refine ⟨shownSince w after verbose, steps, after, ?_, ?_⟩
  · rw [runWithin_compile command, hfile]
  · cases answer with
    | error e => exact ⟨1, rfl⟩
    | ok bundle => exact ⟨0, rfl⟩

/-- Whoever is not told of a success gets no output. -/
lemma output_of_failed {steps : Nat} {after : World} {exit : Exit} (command : parse arguments =
    .ok ⟨.compile source language projectRoot node timeoutSecs json, verbose⟩)
    (h : runWithin steps w arguments = some (after, exit)) (failed : exit.status ≠ .code 0) :
    exit.output = "" := by
  rw [runWithin_compile command] at h
  split at h
  · next after answer hfile =>
    obtain ⟨-, rfl⟩ := Prod.mk.inj (Option.some.inj h)
    cases answer with
    | error e => rfl
    | ok bundle => exact absurd rfl failed
  · obtain ⟨s, -, hexit⟩ := Option.map_eq_some_iff.mp h
    obtain ⟨-, rfl⟩ := Prod.mk.inj hexit
    rfl

/-- How the exit compares that shows a bundle as it is with one that shows it as JSON. -/
inductive ExitsAlike (language : String) (plain json : Exit) : Prop
  /-- Both fail, with the same error but for the name of the area, and there is no output. -/
  | failed {e e' : CommandError} (alike : ErrorsAlike e e') (status : plain.status = .code 1)
      (status' : json.status = .code 1) (silent : plain.output = "") (silent' : json.output = "")
      (error : plain.error = e.text) (error' : json.error = e'.text)
  /-- Both succeed. What the JSON tells is what the other shows. -/
  | succeeded {diagnostics : List Diagnostic} (status : plain.status = .code 0)
      (status' : json.status = .code 0)
      (decoded : Bundle.shownIn? json.output =
        some (plain.output, EntryExtension.ofTag language, diagnostics))
      (error : plain.error = String.join (diagnostics.map diagnosticText)) (error' : json.error = "")

/-- The extension of a bundle is that for the tag. -/
lemma Compiles.extension_eq {bundle : Bundle}
    (h : Compiles w source language projectRoot node timeoutSecs (.ok bundle)) :
    bundle.extension = EntryExtension.ofTag language := by
  generalize hanswer : (Except.ok bundle : Except CommandError Bundle) = answer at h
  cases h with
  | unreadable _ => cases hanswer
  | programless _ _ => cases hanswer
  | started _ _ outcome =>
    cases outcome <;> cases hanswer
    rfl

/-- Answers that are the same but for an area are shown alike in both ways. -/
lemma AnswersAlike.exitsAlike {answer answer' : Except CommandError Bundle} (log log' : List LogLine)
    (h : Compiles w source language projectRoot node timeoutSecs answer)
    (alike : AnswersAlike answer answer') :
    ExitsAlike language (exitOf log (answer.map (render false)))
      (exitOf log' (answer'.map (render true))) := by
  cases alike with
  | failed alike => exact .failed alike rfl rfl rfl rfl rfl rfl
  | bundled bundle elapsed =>
    have hplain : exitOf log (Except.map (render false) (.ok bundle)) =
      ⟨.code 0, bundle.code, log, String.join (bundle.diagnostics.map diagnosticText)⟩ := rfl
    have hjson : exitOf log' (Except.map (render true) (.ok { bundle with elapsed := elapsed })) =
      ⟨.code 0, ({ bundle with elapsed := elapsed } : Bundle).toJson.pretty ++ "\n", log', ""⟩ := rfl
    rw [hplain, hjson]
    refine .succeeded rfl rfl ?_ rfl rfl
    rw [← h.extension_eq]
    exact Bundle.shownIn?_pretty_line { bundle with elapsed := elapsed }

/-- The two ways to show the bundle of a compilation agree, the one in one world and the other in
another one. -/
structure ModesAgree (language : String) (arguments arguments' : List String) (w v : World) :
    Prop where
  /-- Both come to an exit, or neither does. -/
  both : (∃ exit, Exits w arguments exit) ↔ ∃ exit', Exits v arguments' exit'
  /-- The exits they come to tell the same. -/
  alike : ∀ exit exit', Exits w arguments exit → Exits v arguments' exit' →
    ExitsAlike language exit exit'
  /-- Without a success there is no output. -/
  silent : ∀ steps after exit, runWithin steps w arguments = some (after, exit) →
    exit.status ≠ .code 0 → exit.output = ""
  silent' : ∀ steps after exit, runWithin steps v arguments' = some (after, exit) →
    exit.status ≠ .code 0 → exit.output = ""

/-- Two modes agree if what is compiled is the same but for the name of an area. -/
lemma modesAgree_of_alike {arguments' : List String} {verbose' : Bool}
    (plain : parse arguments =
      .ok ⟨.compile source language projectRoot node timeoutSecs false, verbose⟩)
    (asJson : parse arguments' =
      .ok ⟨.compile source language projectRoot node timeoutSecs true, verbose'⟩)
    (there : ∀ answer, Compiles w source language projectRoot node timeoutSecs answer →
      ∃ answer', Compiles v source language projectRoot node timeoutSecs answer' ∧
        AnswersAlike answer answer')
    (back : ∀ answer', Compiles v source language projectRoot node timeoutSecs answer' →
      ∃ answer, Compiles w source language projectRoot node timeoutSecs answer) :
    ModesAgree language arguments arguments' w v where
  both := by
    constructor
    · rintro ⟨exit, h⟩
      obtain ⟨answer, log, hcompiles, -⟩ := exists_answer_of_exits plain h
      obtain ⟨answer', hcompiles', -⟩ := there answer hcompiles
      obtain ⟨log', h'⟩ := hcompiles'.exists_exits asJson
      exact ⟨_, h'⟩
    · rintro ⟨exit', h'⟩
      obtain ⟨answer', log', hcompiles', -⟩ := exists_answer_of_exits asJson h'
      obtain ⟨answer, hcompiles⟩ := back answer' hcompiles'
      obtain ⟨log, h⟩ := hcompiles.exists_exits plain
      exact ⟨_, h⟩
  alike := by
    intro exit exit' h h'
    obtain ⟨answer, log, hcompiles, rfl⟩ := exists_answer_of_exits plain h
    obtain ⟨answer', log', hcompiles', rfl⟩ := exists_answer_of_exits asJson h'
    obtain ⟨answer'', hcompiles'', halike⟩ := there answer hcompiles
    rw [hcompiles'.unique hcompiles''] at halike
    exact halike.exitsAlike log log' hcompiles
  silent _ _ _ h failed := output_of_failed plain h failed
  silent' _ _ _ h failed := output_of_failed asJson h failed

/-- The two ways to show a bundle agree. In one world nothing has to be known for that. In two worlds
with the same files, the same directory and the same environment, in which the program behaves the
same, either neither way comes to an exit, or both fail with the same error, but for the name of the
area, and print nothing, or both succeed: then the JSON is read back as the very code that the other
way prints, with the diagnostics that it shows on the error stream, in their order, and with the
extension for the tag. -/
theorem modes_agree (w v : World) (source : Path) (language : String) (projectRoot : Path)
    (node : Option Path) (timeoutSecs : Nat) (arguments arguments' : List String)
    (verbose verbose' : Bool)
    (plain : parse arguments =
      .ok ⟨.compile source language projectRoot node timeoutSecs false, verbose⟩)
    (asJson : parse arguments' =
      .ok ⟨.compile source language projectRoot node timeoutSecs true, verbose'⟩) :
    (w.Resembles projectRoot v →
      BehavesAlikeOn source language projectRoot node timeoutSecs w v →
      ModesAgree language arguments arguments' w v) ∧
    ModesAgree language arguments arguments' w w := by
  refine ⟨fun same behaves => ?_, ?_⟩
  · refine modesAgree_of_alike plain asJson (fun answer h => h.exists_alike same behaves)
      fun answer' h' => ?_
    obtain ⟨answer, h, -⟩ := h'.exists_alike same.symm (behaves.symm same)
    exact ⟨answer, h⟩
  · exact modesAgree_of_alike plain asJson (fun answer h => ⟨answer, h, .refl answer⟩)
      fun answer' h' => ⟨answer', h'⟩

/-- A world with one snippet, in which one name is proposed for areas again and again. -/
def snippetWorld (random : String) : World :=
  .fresh ⟨[(["work"], ⟨.directory, 1, Mode.directory, 0⟩),
    (["work", "a.js"], ⟨.file "let a;".toUTF8, 2, Mode.file, 0⟩)], 3, 0⟩ ["work"] []
    fun _ => random

/-- The area that is made in that world. -/
def snippetArea (random : String) : StagingArea :=
  ⟨⟨"/work/codeblock-" ++ random⟩⟩

/-- The disk of that world once the area has been made. -/
def areaDisk (random : String) : Disk :=
  (snippetWorld random).disk.add ["work", "codeblock-" ++ random] .directory Mode.secluded

/-- The disk of that world once the entry has been written. -/
def entryDisk (random : String) : Disk :=
  (areaDisk random).add ["work", "codeblock-" ++ random, "index.js"] (.file "let a;".toUTF8)
    Mode.file

/-- How the area is made and the entry written in that world. -/
lemma staged_snippetWorld {random : String} (h : random = "aaaaaa" ∨ random = "bbbbbb") :
    StagingArea.create (snippetWorld random).disk ["work"] ⟨"."⟩ (fun _ => random) 0 =
        (1, .ok (snippetArea random, areaDisk random)) ∧
      (snippetWorld random).disk.follow (areaDisk random) ["work"] = ["work"] ∧
      (snippetArea random).writeEntry (areaDisk random) ["work"] (EntryExtension.ofTag "javascript")
          "let a;" =
        .ok ((snippetArea random).entryPath (EntryExtension.ofTag "javascript"), entryDisk random) ∧
      (areaDisk random).follow (entryDisk random) ["work"] = ["work"] ∧
      (entryDisk random).locateNode ["work"] true ⟨"."⟩ = .ok (["work"], .directory) ∧
      (entryDisk random).locateEntry ["work"] true ⟨"/none"⟩ = .error (.system .noEntry) := by
  rcases h with rfl | rfl <;> decide +kernel

/-- What a call has made in that world before its program is started. -/
lemma eq_of_creates_snippetWorld {random : String} (h : random = "aaaaaa" ∨ random = "bbbbbb")
    {area : StagingArea} {w₁ : World}
    (created : Compilation.Creates (settingsFor ⟨"."⟩ (some ⟨"/none"⟩)) "javascript"
      (optionsIn (snippetWorld random) 0) (prepared (snippetWorld random)) area w₁) :
    area = snippetArea random ∧ w₁.disk = areaDisk random ∧ w₁.cwd = ["work"] ∧
      w₁.environment = [] := by
  obtain ⟨hcreate, hcwd, -⟩ := staged_snippetWorld h
  obtain ⟨-, made⟩ := created
  cases hcreate.symm.trans made
  exact ⟨rfl, rfl, hcwd, rfl⟩

/-- A program that is not there cannot be started in that world. -/
lemma behaves_snippetWorld {random : String} (h : random = "aaaaaa" ∨ random = "bbbbbb")
    {area : StagingArea} {w₁ : World} {disk : Disk}
    (created : Compilation.Creates (settingsFor ⟨"."⟩ (some ⟨"/none"⟩)) "javascript"
      (optionsIn (snippetWorld random) 0) (prepared (snippetWorld random)) area w₁)
    (written : area.writeEntry w₁.disk w₁.cwd (EntryExtension.ofTag "javascript") "let a;" =
      .ok (area.entryPath (EntryExtension.ofTag "javascript"), disk))
    (behaviour : Webpack.Behaviour) :
    Webpack.Behaves ⟨"/none"⟩ ⟨"."⟩ (settingsFor ⟨"."⟩ (some ⟨"/none"⟩)) "javascript"
        (optionsIn (snippetWorld random) 0) area w₁ disk behaviour ↔
      behaviour = .fails (.refused (.system .noEntry)) := by
  obtain ⟨-, -, hwritten, hcwd', hdirectory, hmissing⟩ := staged_snippetWorld h
  obtain ⟨rfl, hdisk, hcwd, henvironment⟩ := eq_of_creates_snippetWorld h created
  rw [hdisk, hcwd] at written
  cases hwritten.symm.trans written
  have hinside : (w₁.disk.follow (entryDisk random) w₁.cwd) = ["work"] := by
    rw [hdisk, hcwd, hcwd']
  have hname : Text.decoded (Text.encoded "/none") = "/none" := by decide +kernel
  have hstart : (entryDisk random).locateNode (w₁.disk.follow (entryDisk random) w₁.cwd) true
      ⟨"."⟩ = .ok (["work"], .directory) := by
    rw [hinside, hdirectory]
  have hnone : (entryDisk random).locateEntry ["work"] true ⟨Text.decoded (Text.encoded "/none")⟩ =
      .error (.system .noEntry) := by
    rw [hname, hmissing]
  have hclean : ∀ v ∈ w₁.environment, Machine.Start.hasNul v.1 = false ∧
      Machine.Start.hasNul v.2 = false := by simp [henvironment]
  exact Webpack.behaves_iff_of_refused (Webpack.spawn_of_missing
    (Webpack.isClean_startFor _ _ (by decide) (by decide) hclean) hstart
    (show (Text.encoded "/none").toList.contains '/' = true by decide +kernel) hnone)

/-- The worlds of two names have the same files. -/
lemma resembles_snippetWorld :
    (snippetWorld "aaaaaa").Resembles ⟨"."⟩ (snippetWorld "bbbbbb") where
  tree := by decide
  tree' := by decide
  standing := ⟨["work"], [], rfl, by decide, by simp⟩
  lettered _ := show StagingArea.IsRandomPart "aaaaaa" by decide
  lettered' _ := show StagingArea.IsRandomPart "bbbbbb" by decide
  disk _ := rfl
  cwd := rfl
  environment := rfl
  finds := by
    have hplace : StagingArea.parentOf (snippetWorld "aaaaaa").disk ["work"] ⟨"."⟩ = .ok ["work"] := by
      decide +kernel
    intro parent hparent
    cases hplace.symm.trans hparent
    have htree : (snippetWorld "aaaaaa").disk.WellFormed := by decide
    have hwork : (snippetWorld "aaaaaa").disk.node? ["work"] = some .directory := by decide
    refine iff_of_true ⟨0, by decide, ?_⟩ ⟨0, by decide, ?_⟩
    · exact StagingArea.attempt_ne_taken (show StagingArea.IsRandomPart "aaaaaa" by decide) htree
        hwork rfl (by decide)
    · exact StagingArea.attempt_ne_taken (show StagingArea.IsRandomPart "bbbbbb" by decide) htree
        hwork rfl (by decide)

/-- A program that is not there cannot be run in either mode, whatever the areas are called. -/
theorem modes_agree_missing :
    parse ["compile", "--node", "/none", "a.js"] =
        .ok ⟨.compile ⟨"a.js"⟩ "javascript" ⟨"."⟩ (some ⟨"/none"⟩) 0 false, false⟩ ∧
      parse ["compile", "--json", "a.js", "--node=/none"] =
        .ok ⟨.compile ⟨"a.js"⟩ "javascript" ⟨"."⟩ (some ⟨"/none"⟩) 0 true, false⟩ ∧
      (snippetWorld "aaaaaa").Resembles ⟨"."⟩ (snippetWorld "bbbbbb") ∧
      BehavesAlikeOn ⟨"a.js"⟩ "javascript" ⟨"."⟩ (some ⟨"/none"⟩) 0 (snippetWorld "aaaaaa")
        (snippetWorld "bbbbbb") ∧
      ∃ exit exit', Exits (snippetWorld "aaaaaa") ["compile", "--node", "/none", "a.js"] exit ∧
        Exits (snippetWorld "bbbbbb") ["compile", "--json", "a.js", "--node=/none"] exit' ∧
        ExitsAlike "javascript" exit exit' ∧ exit.status = .code 1 ∧
        exit.error = (CommandError.failure (Webpack.spawnFailure ⟨"/none"⟩ (.system .noEntry))).text := by
  have plain : parse ["compile", "--node", "/none", "a.js"] =
      .ok ⟨.compile ⟨"a.js"⟩ "javascript" ⟨"."⟩ (some ⟨"/none"⟩) 0 false, false⟩ := by rfl
  have asJson : parse ["compile", "--json", "a.js", "--node=/none"] =
      .ok ⟨.compile ⟨"a.js"⟩ "javascript" ⟨"."⟩ (some ⟨"/none"⟩) 0 true, false⟩ := by rfl
  have read : (snippetWorld "aaaaaa").disk.readText ["work"] ⟨"a.js"⟩ = .ok "let a;" := by
    decide +kernel
  have behaves : BehavesAlikeOn ⟨"a.js"⟩ "javascript" ⟨"."⟩ (some ⟨"/none"⟩) 0
      (snippetWorld "aaaaaa") (snippetWorld "bbbbbb") := by
    intro text program hread hfound area area' w₁ v₁ disk disk' created created' written written'
      behaviour
    cases read.symm.trans hread
    cases hfound
    exact (behaves_snippetWorld (.inl rfl) created written behaviour).trans
      (behaves_snippetWorld (.inr rfl) created' written' behaviour).symm
  have agree := (modes_agree _ _ _ _ _ _ _ _ _ _ _ plain asJson).1 resembles_snippetWorld behaves
  obtain ⟨hcreate, hcwd, hwritten, -⟩ := staged_snippetWorld (.inl rfl)
  obtain ⟨w₁, created⟩ : ∃ w₁, Compilation.Creates (settingsFor ⟨"."⟩ (some ⟨"/none"⟩)) "javascript"
      (optionsIn (snippetWorld "aaaaaa") 0) (prepared (snippetWorld "aaaaaa"))
      (snippetArea "aaaaaa") w₁ :=
    ⟨_, .intro (isCancelled_prepared _ _) hcreate⟩
  obtain ⟨-, hdisk, hinside, -⟩ := eq_of_creates_snippetWorld (.inl rfl) created
  rw [← hdisk, ← hinside] at hwritten
  obtain ⟨stage, w', result, outcome, yields⟩ := Webpack.exists_outcome_of_behaves created hwritten
    ((behaves_snippetWorld (.inl rfl) created hwritten _).mpr rfl)
  cases yields
  have compiles : Compiles (snippetWorld "aaaaaa") ⟨"a.js"⟩ "javascript" ⟨"."⟩ (some ⟨"/none"⟩) 0 _ :=
    .started read rfl outcome
  obtain ⟨log, exits⟩ := compiles.exists_exits plain
  obtain ⟨exit', exits'⟩ := agree.both.mp ⟨_, exits⟩
  exact ⟨plain, asJson, resembles_snippetWorld, behaves, _, exit', exits, exits',
    agree.alike _ _ exits exits', rfl, rfl⟩

end CommandLine

end SnippetForge
