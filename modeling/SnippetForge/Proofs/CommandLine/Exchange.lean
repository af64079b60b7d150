import SnippetForge.CommandLine.Run
import SnippetForge.Proofs.Json.Records

/-!
# Exchanging values as JSON

Snippets, source files, manifest entries and diagnostics are faithful in JSON, alone and in lists.
So a page that hands over snippets, or an editor that reads a manifest, has what was meant, whatever
characters the texts are made of.

The command that resolves imports prints a manifest. Its output is read back as exactly the manifest
that discovery gave, and when there is none, because the snippets cannot be had or an import fails,
it prints nothing.
-/

namespace SnippetForge

open Json (IsFaithful IsLossless)

/-! ### Faithful types -/

lemma SourceFile.isFaithful : IsFaithful SourceFile.toJson SourceFile.ofJson? where
  isPrintable f := Json.isPrintable_record (by simp [Json.isPrintable_ofText])
  ofJson?_toJson f := by
    have hfields : f.toJson.fields? ["filename", "content"]
        = some [some (Json.ofText f.filename), some (Json.ofText f.content)] :=
      Json.fields?_record (by simp)
    rw [SourceFile.ofJson?, hfields]
    rfl

lemma ManifestEntry.isFaithful : IsFaithful ManifestEntry.toJson ManifestEntry.ofJson? where
  isPrintable e := by
    have himpls := SourceFile.isFaithful.list.isPrintable e.impls
    exact Json.isPrintable_record (by simp [Json.isPrintable_ofText, himpls])
  ofJson?_toJson e := by
    have hfields : e.toJson.fields? ["name", "content", "impls"]
        = some [some (Json.ofText e.name), some (Json.ofText e.content),
          some (.array (e.impls.map SourceFile.toJson))] :=
      Json.fields?_record (by simp)
    have himpls := SourceFile.isFaithful.list.ofJson?_toJson e.impls
    rw [ManifestEntry.ofJson?, hfields]
    simp [Json.required?, Json.text?, Json.ofText, himpls]

lemma Snippet.isFaithful : IsFaithful Snippet.toJson Snippet.ofJson? where
  isPrintable s :=
    Json.isPrintable_record (by simp [Json.isPrintable_ofText, Json.isPrintable_ofTexts])
  ofJson?_toJson s := by
    have hfields : s.toJson.fields? ["imports", "source", "language"]
        = some [some (Json.ofTexts s.imports), some (Json.ofText s.source),
          some (Json.ofText s.language)] :=
      Json.fields?_record (by simp)
    rw [Snippet.ofJson?, hfields]
    simp [Json.optional?, Json.text?, Json.ofText, Json.texts?_ofTexts]

lemma Severity.ofKey?_key (s : Severity) : Severity.ofKey? s.key = some s := by
  cases s <;> rfl

lemma Diagnostic.isFaithful : IsFaithful Diagnostic.toJson Diagnostic.ofJson? where
  isPrintable d := Json.isPrintable_record (by simp [Json.isPrintable_ofText])
  ofJson?_toJson d := by
    have hfields : d.toJson.fields? ["level", "message"]
        = some [some (Json.ofText d.severity.key), some (Json.ofText d.message)] :=
      Json.fields?_record (by simp)
    rw [Diagnostic.ofJson?, hfields]
    simp [Json.required?, Json.text?, Json.ofText, Severity.ofJson?, Severity.ofKey?_key]

/-! ### Printed manifests -/

namespace CommandLine

/-- The manifest of a source of imports, or what prevents it. -/
def manifestOf (w : World) (source : ImportSource) (packageRoot : Path) (dedupe : Bool) :
    Except CommandError (List ManifestEntry) :=
  match snippetsOf w source with
  | .error e => .error e
  | .ok snippets =>
    (Discovery.resolve w.disk w.cwd ⟨packageRoot, dedupe⟩ snippets).2.mapError .failure

/-- What an exit shows of a manifest: the manifest itself, or nothing if there is none. -/
def Shows (exit : Exit) : Except CommandError (List ManifestEntry) → Prop
  | .ok entries =>
    exit.status = .code 0 ∧ ManifestEntry.listOfText? exit.output = some entries
  | .error e => exit.status = .code 1 ∧ exit.output = "" ∧ exit.error = e.text

/-- A printed manifest is read back from its line. -/
lemma listOfText?_pretty_line (entries : List ManifestEntry) :
    ManifestEntry.listOfText? ((ManifestEntry.listToJson entries).pretty ++ "\n")
      = some entries := by
  have hlist := ManifestEntry.isFaithful.list
  rw [ManifestEntry.listOfText?, ManifestEntry.listToJson,
    Json.parse?_pretty_line (hlist.isPrintable entries)]
  exact hlist.ofJson?_toJson entries

/-- The text of a resolved manifest, or the error. -/
lemma resolve_snd (w : World) (source : ImportSource) (packageRoot : Path) (dedupe : Bool) :
    (resolve w source packageRoot dedupe).2
      = (manifestOf w source packageRoot dedupe).map fun entries =>
          ((ManifestEntry.listToJson entries).pretty ++ "\n", "") := by
  unfold resolve manifestOf
  cases snippetsOf w source with
  | error e => rfl
  | ok snippets =>
    dsimp only
    rcases Discovery.resolve w.disk w.cwd ⟨packageRoot, dedupe⟩ snippets with ⟨log, result⟩
    cases result <;> rfl

/-- The command that resolves imports comes to an end and shows the manifest. -/
lemma exists_run_resolve (w : World) {arguments : List String} {source : ImportSource}
    {packageRoot : Path} {dedupe verbose : Bool}
    (command : parse arguments = .ok ⟨.resolve source packageRoot dedupe, verbose⟩) :
    ∃ after exit, run w arguments = some (after, exit) ∧
      Shows exit (manifestOf w source packageRoot dedupe) := by
  have hrun : run w arguments = some ((resolve w source packageRoot dedupe).1,
      exitOf (shownSince w (resolve w source packageRoot dedupe).1 verbose)
        (resolve w source packageRoot dedupe).2) := by
    rw [run, runWithin, command]
    rfl
  refine ⟨_, _, hrun, ?_⟩
  rw [resolve_snd]
  cases manifestOf w source packageRoot dedupe with
  | error e => exact ⟨rfl, rfl, rfl⟩
  | ok entries => exact ⟨rfl, listOfText?_pretty_line entries⟩

end CommandLine

/-- Snippets, manifests, files and diagnostics are exchanged as JSON texts without loss, in the
compact form as in the pretty one. In particular the output of the command that resolves imports is
read back as the manifest that discovery gave, and there is no output if it gave none. -/
theorem exchanged_without_loss :
    IsLossless [Json.compact, Json.pretty]
      (fun snippets => .array (snippets.map Snippet.toJson)) Snippet.listOfText? ∧
    IsLossless [Json.compact, Json.pretty] Snippet.toJson
      (fun text => (Json.parse? text).bind Snippet.ofJson?) ∧
    IsLossless [Json.compact, Json.pretty] ManifestEntry.listToJson ManifestEntry.listOfText? ∧
    IsLossless [Json.compact, Json.pretty] SourceFile.toJson
      (fun text => (Json.parse? text).bind SourceFile.ofJson?) ∧
    IsLossless [Json.compact, Json.pretty]
      (fun diagnostics => .array (diagnostics.map Diagnostic.toJson)) Diagnostic.listOfText? ∧
    ∀ (w : World) (arguments : List String) (source : CommandLine.ImportSource)
      (packageRoot : Path) (dedupe verbose : Bool),
      CommandLine.parse arguments = .ok ⟨.resolve source packageRoot dedupe, verbose⟩ →
      ∃ after exit, CommandLine.run w arguments = some (after, exit) ∧
        CommandLine.Shows exit (CommandLine.manifestOf w source packageRoot dedupe) :=
  ⟨Snippet.isFaithful.list.isLossless, Snippet.isFaithful.isLossless,
    ManifestEntry.isFaithful.list.isLossless, SourceFile.isFaithful.isLossless,
    Diagnostic.isFaithful.list.isLossless,
    fun w _ _ _ _ _ command => CommandLine.exists_run_resolve w command⟩

/-- A world with a package whose declaration holds characters that have to be escaped. -/
def quotedWorld : World :=
  .fresh ⟨[(["node_modules"], ⟨.directory, 1, Mode.directory, 0⟩),
    (["node_modules", "q"], ⟨.directory, 2, Mode.directory, 0⟩),
    (["node_modules", "q", "q.d.ts"], ⟨.file "\"\\\u0001\n".toUTF8, 3, Mode.file, 0⟩)], 4, 0⟩
    [] [] fun _ => "aaaaaa"

/-- The manifest of that package is shown as it is. -/
theorem exchanged_without_loss_quoted :
    CommandLine.parse ["resolve", "q"]
      = .ok ⟨.resolve (.names ["q"]) ⟨"node_modules"⟩ false, false⟩ ∧
    CommandLine.manifestOf quotedWorld (.names ["q"]) ⟨"node_modules"⟩ false
      = .ok [⟨"q", "declare module 'q' \x7b\n\"\\\u0001\n\n\x7d", []⟩] ∧
    ∃ after exit, CommandLine.run quotedWorld ["resolve", "q"] = some (after, exit) ∧
      ManifestEntry.listOfText? exit.output
        = some [⟨"q", "declare module 'q' \x7b\n\"\\\u0001\n\n\x7d", []⟩] := by
  have command : CommandLine.parse ["resolve", "q"]
      = .ok ⟨.resolve (.names ["q"]) ⟨"node_modules"⟩ false, false⟩ := by rfl
  have manifest : CommandLine.manifestOf quotedWorld (.names ["q"]) ⟨"node_modules"⟩ false
      = .ok [⟨"q", "declare module 'q' \x7b\n\"\\\u0001\n\n\x7d", []⟩] := by
    decide +kernel
  obtain ⟨after, exit, hrun, hshows⟩ :=
    exchanged_without_loss.2.2.2.2.2 quotedWorld _ _ _ _ _ command
  rw [manifest] at hshows
  exact ⟨command, manifest, after, exit, hrun, hshows.2⟩

end SnippetForge
