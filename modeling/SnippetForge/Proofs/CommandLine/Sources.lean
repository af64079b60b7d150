import SnippetForge.Proofs.CommandLine.Exchange
import SnippetForge.Proofs.Discovery.Blocks

/-!
# The two sources of imports

The command that resolves imports has them from its arguments or from a file of snippets. The file
counts for nothing but the names that its snippets declare, in order: how many snippets there are,
how the names are spread over them, and what else their JSON says makes no difference to what the
command prints, nor to how it fails.

Every list of names can be given as arguments, since after `--` no argument is taken for an option.
-/

namespace SnippetForge

/-! ### Declared imports -/

namespace Json

/-- The texts among the items of an array. -/
def textsIn : Json → List String
  | .array items => items.filterMap text?
  | _ => []

/-- The texts that an array of texts holds are all of its items. -/
lemma textsIn_eq {v : Json} {texts : List String} (h : v.texts? = some texts) :
    v.textsIn = texts := by
  rw [texts?_eq_some_iff.mp h]
  change (texts.map ofText).filterMap text? = texts
  rw [List.filterMap_map]
  exact List.filterMap_some

/-- The first member of a name that does not occur twice is the only one. -/
lemma find?_of_unique? {keyed : List (String × Json)} {name : String} {found : Option Json}
    (h : unique? name keyed = some found) :
    (keyed.find? fun m => m.1 == name).map Prod.snd = found := by
  unfold unique? at h
  rw [← List.head?_filter]
  split at h
  · next hnone =>
    rw [hnone]
    exact Option.some.inj h
  · next m hone =>
    rw [hone]
    exact Option.some.inj h
  · cases h

end Json

/-- The imports that a JSON value declares as a snippet: the texts under their name in an object, or
the texts in the first item of an array. -/
def Snippet.declaredIn : Json → List String
  | .object members =>
    ((members.find? fun m => m.1 == .text "imports").map fun m => m.2.textsIn).getD []
  | .array (imports :: _) => imports.textsIn
  | _ => []

/-- The texts of a field that may be missing are those in its value. -/
lemma Json.textsIn_of_optional? {field : Option Json} {texts : List String}
    (h : optional? texts? [] field = some texts) : (field.map textsIn).getD [] = texts := by
  cases field with
  | none => exact Option.some.inj h
  | some v => exact textsIn_eq h

/-- A snippet that is read has the imports that its JSON value declares. -/
lemma Snippet.imports_of_ofJson? {v : Json} {s : Snippet} (h : ofJson? v = some s) :
    s.imports = declaredIn v := by
  unfold ofJson? at h
  split at h
  swap
  · cases h
  next imports source language hfields =>
  split at h
  swap
  · cases h
  next texts _ _ htexts _ _ =>
  cases h
  rw [← Json.textsIn_of_optional? htexts]
  cases v with
  | object members =>
    rw [Json.fields?, Option.bind_eq_some_iff] at hfields
    obtain ⟨keyed, hkeyed, hfields⟩ := hfields
    have hunique : Json.unique? "imports" keyed = some imports := by
      cases hfound : Json.unique? "imports" keyed with
      | none => simp [hfound] at hfields
      | some found =>
        cases hsource : Json.unique? "source" keyed <;>
          cases hlanguage : Json.unique? "language" keyed <;>
          simp_all
    have hkeys : ∀ m : String × Json,
        (Literal.text m.1 == .text "imports") = (m.1 == "imports") := by
      intro m
      rw [Bool.eq_iff_iff]
      simp
    rw [Json.map_text_of_mapM_key? hkeyed, declaredIn, List.find?_map,
      ← Json.find?_of_unique? hunique]
    simp only [Function.comp_def, hkeys, Option.map_map]
  | array items =>
    rw [Json.fields?] at hfields
    split at hfields
    · cases items with
      | nil =>
        cases hfields
        rfl
      | cons first rest =>
        obtain rfl : imports = some first := by
          have hlist := Option.some.inj hfields
          rw [List.map_cons, List.cons_append] at hlist
          exact (List.cons.inj hlist).1.symm
        rfl
    · cases hfields
  | _ => cases hfields

/-- Snippets that are read have the imports that their JSON values declare, in order. -/
lemma Snippet.imports_of_mapM_ofJson? {blocks : List Json} {snippets : List Snippet}
    (h : blocks.mapM ofJson? = some snippets) :
    snippets.flatMap (·.imports) = blocks.flatMap declaredIn := by
  induction blocks generalizing snippets with
  | nil =>
    obtain rfl : snippets = [] := by simpa using h.symm
    rfl
  | cons block blocks ih =>
    rw [List.mapM_cons, Option.bind_eq_bind, Option.bind_eq_some_iff] at h
    obtain ⟨first, hfirst, h⟩ := h
    rw [Option.bind_eq_bind, Option.bind_eq_some_iff] at h
    obtain ⟨rest, hrest, h⟩ := h
    obtain rfl := Option.some.inj h
    rw [List.flatMap_cons, List.flatMap_cons, imports_of_ofJson? hfirst, ih hrest]

namespace CommandLine

/-! ### Arguments that carry any list of names -/

namespace Reader

/-- A command without a limit takes all that is left as positional arguments. -/
lemma readPositionals_eq {spec : CommandSpec} (unlimited : spec.maxPositionals = none)
    (texts : spec.positional = .text) {r : Reader} (settled : r.pending = none)
    (names : List String) :
    r.readPositionals spec names =
      .ok { r.arguments with positionals := r.arguments.positionals ++ names } := by
  induction names generalizing r with
  | nil => simp [readPositionals, finish, settled]
  | cons name names ih =>
    have hadd : r.addPositional spec name =
        .ok { r with arguments :=
          { r.arguments with positionals := r.arguments.positionals ++ [name] } } := by
      simp [addPositional, unlimited, texts, ValueKind.accepts]
    have hrest := @ih { r with arguments :=
      { r.arguments with positionals := r.arguments.positionals ++ [name] } } settled
    rw [readPositionals, hadd]
    simpa only [List.append_assoc, List.singleton_append] using hrest

/-- An argument that starts with two hyphens is an option, unless it has nothing else. -/
lemma readAll_long (spec : CommandSpec) {r : Reader} (settled : r.pending = none) {body : List Char}
    (hbody : body ≠ []) (rest : List String) :
    r.readAll spec (String.ofList ('-' :: '-' :: body) :: rest) =
      match r.readLong spec body with
      | .ok r => readAll spec r rest
      | .error stop => .error stop := by
  have hne : String.ofList ('-' :: '-' :: body) ≠ "--" := by
    rw [ne_eq, ← String.toList_inj, String.toList_ofList]
    simpa using hbody
  have hread : r.readArgument spec (String.ofList ('-' :: '-' :: body)) = r.readLong spec body := by
    simp [readArgument, settled]
  cases hlong : r.readLong spec body <;> rw [hlong] at hread <;> simp only [readAll, hread]

/-- An option with its value after an equals sign. -/
lemma readLong_attached {spec : CommandSpec} {r : Reader} {name : List Char} (hname : '=' ∉ name)
    {o : OptionSpec} {kind : ValueKind}
    (hoption : spec.options.find? (·.name == String.ofList name) = some o)
    (hkind : o.value = some kind) (value : String) :
    r.readLong spec (name ++ '=' :: value.toList) = r.addValue o kind value := by
  have hall : ∀ c ∈ name, (c != '=') = true := fun c hc => by
    rw [bne_iff_ne]
    rintro rfl
    exact hname hc
  have htake : (name ++ '=' :: value.toList).takeWhile (· != '=') = name := by
    rw [List.takeWhile_append_of_pos hall]
    simp
  have hdrop : (name ++ '=' :: value.toList).dropWhile (· != '=') = '=' :: value.toList := by
    rw [List.dropWhile_append_of_pos hall]
    simp
  unfold readLong
  simp only [htake, hdrop, hoption, hkind, String.ofList_toList]

end Reader

/-- Arguments that resolve imports from a source, below a package root. -/
def resolveArguments (packageRoot : String) (dedupe : Bool) (source : List String) : List String :=
  "resolve" :: ("--package-root=" ++ packageRoot) ::
    ((if dedupe then ["--dedupe"] else []) ++ source)

/-- What has been read of such arguments before the source. -/
def rootReader (packageRoot : String) (dedupe : Bool) : Reader :=
  ⟨⟨if dedupe then ["dedupe"] else [], [("package-root", packageRoot)], []⟩, none⟩

lemma parse_resolveArguments {packageRoot : String} (hroot : packageRoot ≠ "") (dedupe : Bool)
    (source : List String) :
    parse (resolveArguments packageRoot dedupe source) =
      match (rootReader packageRoot dedupe).readAll resolveSpec source with
      | .error stop => .error stop
      | .ok a => (resolveCommand a).map fun command => ⟨command, a.has "verbose"⟩ := by
  have hargument : "--package-root=" ++ packageRoot =
      String.ofList ('-' :: '-' :: ("package-root".toList ++ '=' :: packageRoot.toList)) := by
    rw [← String.toList_inj]
    simp
  have hoption : resolveSpec.options.find? (·.name == String.ofList "package-root".toList) =
      some ⟨"package-root", none, some .path⟩ := rfl
  have hvalue : Reader.empty.readLong resolveSpec
      ("package-root".toList ++ '=' :: packageRoot.toList)
      = .ok (rootReader packageRoot false) := by
    rw [Reader.readLong_attached (by decide) hoption rfl]
    simp [Reader.addValue, Reader.isGiven, Reader.empty, ValueKind.accepts, hroot, rootReader]
  have hread : Reader.empty.readAll resolveSpec (("--package-root=" ++ packageRoot) ::
      ((if dedupe then ["--dedupe"] else []) ++ source)) =
      (rootReader packageRoot dedupe).readAll resolveSpec source := by
    rw [hargument, Reader.readAll_long resolveSpec rfl (by simp), hvalue]
    cases dedupe with
    | false => rfl
    | true => rfl
  change readCommand resolveSpec resolveCommand false _ = _
  rw [readCommand, hread]
  rfl

/-- After two hyphens, any list of names is taken as it is. -/
lemma parse_names {packageRoot : String} (hroot : packageRoot ≠ "") (dedupe : Bool)
    (names : List String) :
    parse (resolveArguments packageRoot dedupe ("--" :: names)) =
      .ok ⟨.resolve (.names names) ⟨packageRoot⟩ dedupe, false⟩ := by
  have hread : (rootReader packageRoot dedupe).readAll resolveSpec ("--" :: names) =
      .ok ⟨if dedupe then ["dedupe"] else [], [("package-root", packageRoot)], names⟩ := by
    rw [Reader.readAll]
    exact Reader.readPositionals_eq rfl rfl rfl names
  rw [parse_resolveArguments hroot, hread]
  cases dedupe <;> rfl

/-- Any file whose path is not empty can be given. -/
lemma parse_file {packageRoot file : String} (hroot : packageRoot ≠ "") (hfile : file ≠ "")
    (dedupe : Bool) :
    parse (resolveArguments packageRoot dedupe ["--blocks=" ++ file]) =
      .ok ⟨.resolve (.file ⟨file⟩) ⟨packageRoot⟩ dedupe, false⟩ := by
  have hargument : "--blocks=" ++ file =
      String.ofList ('-' :: '-' :: ("blocks".toList ++ '=' :: file.toList)) := by
    rw [← String.toList_inj]
    simp
  have hoption : resolveSpec.options.find? (·.name == String.ofList "blocks".toList) =
      some ⟨"blocks", none, some .path⟩ := rfl
  have hread : (rootReader packageRoot dedupe).readAll resolveSpec ["--blocks=" ++ file] =
      .ok ⟨if dedupe then ["dedupe"] else [], [("package-root", packageRoot), ("blocks", file)],
        []⟩ := by
    rw [hargument, Reader.readAll_long resolveSpec rfl (by simp),
      Reader.readLong_attached (by decide) hoption rfl]
    cases dedupe <;>
      simp [Reader.addValue, Reader.isGiven, ValueKind.accepts, hfile, rootReader, Reader.readAll,
        Reader.finish]
  rw [parse_resolveArguments hroot, hread]
  cases dedupe <;> rfl

/-! ### One answer -/

/-- The snippets that are read from a file have the imports that its JSON declares. -/
lemma exists_snippetsOf_file {w : World} {file : Path} {text : String} {blocks : List Json}
    (read : w.disk.readText w.cwd file = .ok text)
    (parsed : Json.parse? text = some (.array blocks))
    (accepted : (Snippet.listOfText? text).isSome = true) :
    ∃ snippets, snippetsOf w (.file file) = .ok snippets ∧
      snippets.flatMap (·.imports) = blocks.flatMap Snippet.declaredIn := by
  obtain ⟨snippets, hsnippets⟩ := Option.isSome_iff_exists.mp accepted
  refine ⟨snippets, by simp only [snippetsOf, read, hsnippets], ?_⟩
  rw [Snippet.listOfText?, parsed] at hsnippets
  exact Snippet.imports_of_mapM_ofJson? hsnippets

/-- What the manifest is depends on the names of its source only. -/
lemma manifestOf_eq_of_imports {w : World} {source source' : ImportSource}
    {snippets snippets' : List Snippet} (h : snippetsOf w source = .ok snippets)
    (h' : snippetsOf w source' = .ok snippets')
    (same : snippets'.flatMap (·.imports) = snippets.flatMap (·.imports)) (packageRoot : Path)
    (dedupe : Bool) :
    manifestOf w source' packageRoot dedupe = manifestOf w source packageRoot dedupe := by
  unfold manifestOf
  rw [h, h']
  simp only
  rw [Discovery.resolve_eq, Discovery.resolve_eq, same]

/-- Commands with the same manifest give the same answer. -/
lemma exists_run_resolve_same {w : World} {arguments arguments' : List String}
    {source source' : ImportSource} {packageRoot : Path} {dedupe verbose verbose' : Bool}
    (same : manifestOf w source' packageRoot dedupe = manifestOf w source packageRoot dedupe)
    (command : parse arguments = .ok ⟨.resolve source packageRoot dedupe, verbose⟩)
    (command' : parse arguments' = .ok ⟨.resolve source' packageRoot dedupe, verbose'⟩) :
    ∃ after exit after' exit', run w arguments = some (after, exit) ∧
      run w arguments' = some (after', exit') ∧ exit'.status = exit.status ∧
      exit'.output = exit.output ∧ exit'.error = exit.error := by
  have hrun : ∀ {arguments source verbose},
      parse arguments = .ok ⟨.resolve source packageRoot dedupe, verbose⟩ →
      run w arguments = some ((resolve w source packageRoot dedupe).1,
        exitOf (shownSince w (resolve w source packageRoot dedupe).1 verbose)
          (resolve w source packageRoot dedupe).2) := by
    intro arguments source verbose command
    rw [run, runWithin, command]
    rfl
  refine ⟨_, _, _, _, hrun command, hrun command', ?_⟩
  rw [resolve_snd, resolve_snd, same]
  cases manifestOf w source packageRoot dedupe with
  | error e => exact ⟨rfl, rfl, rfl⟩
  | ok entries => exact ⟨rfl, rfl, rfl⟩

/-- The command that resolves imports gives the same answer for a file of snippets as for the names
that the file declares, in order, whatever else the file says: it prints the same, and it fails for
the same reason. Any list of names can be given. The manifest of some snippets after others is put
together from those of both, or is the first failure, since what has been found in one snippet is
known in the next. -/
theorem same_answer_from_both_sources :
    (∀ (w : World) (file packageRoot : Path) (dedupe : Bool) (text : String) (blocks : List Json),
      w.disk.readText w.cwd file = .ok text → Json.parse? text = some (.array blocks) →
      (Snippet.listOfText? text).isSome = true →
      manifestOf w (.file file) packageRoot dedupe =
          manifestOf w (.names (blocks.flatMap Snippet.declaredIn)) packageRoot dedupe ∧
        ∀ (arguments arguments' : List String) (verbose verbose' : Bool),
          parse arguments = .ok
            ⟨.resolve (.names (blocks.flatMap Snippet.declaredIn)) packageRoot dedupe, verbose⟩ →
          parse arguments' = .ok ⟨.resolve (.file file) packageRoot dedupe, verbose'⟩ →
          ∃ after exit after' exit', run w arguments = some (after, exit) ∧
            run w arguments' = some (after', exit') ∧ exit'.status = exit.status ∧
            exit'.output = exit.output ∧ exit'.error = exit.error) ∧
    (∀ (packageRoot file : String) (dedupe : Bool) (names : List String),
      packageRoot ≠ "" → file ≠ "" →
      parse (resolveArguments packageRoot dedupe ("--" :: names)) =
          .ok ⟨.resolve (.names names) ⟨packageRoot⟩ dedupe, false⟩ ∧
        parse (resolveArguments packageRoot dedupe ["--blocks=" ++ file]) =
          .ok ⟨.resolve (.file ⟨file⟩) ⟨packageRoot⟩ dedupe, false⟩) ∧
    ∀ (d : Disk) (cwd : Place) (settings : ResolverSettings),
      (∀ snippets, (Discovery.resolve d cwd settings snippets).2 =
        Discovery.resolveInTurn d cwd settings snippets []) ∧
      ∀ front back, (Discovery.resolve d cwd settings (front ++ back)).2 =
        (Discovery.resolve d cwd settings front).2.bind fun first =>
          (Discovery.resolve d cwd settings back).2.map
            (Discovery.followedBy settings.dedupe first) := by
  refine ⟨fun w file packageRoot dedupe text blocks read parsed accepted => ?_,
    fun packageRoot file dedupe names hroot hfile =>
      ⟨parse_names hroot dedupe names, parse_file hroot hfile dedupe⟩,
    fun d cwd settings => ⟨Discovery.resolve_eq_resolveInTurn settings,
      Discovery.resolve_append settings⟩⟩
  obtain ⟨snippets, hsnippets, himports⟩ := exists_snippetsOf_file read parsed accepted
  have hnames : snippetsOf w (.names (blocks.flatMap Snippet.declaredIn)) =
      .ok [.ofImports (blocks.flatMap Snippet.declaredIn)] := rfl
  have hsame : manifestOf w (.file file) packageRoot dedupe =
      manifestOf w (.names (blocks.flatMap Snippet.declaredIn)) packageRoot dedupe := by
    refine manifestOf_eq_of_imports hnames hsnippets ?_ packageRoot dedupe
    rw [himports, List.flatMap_singleton]
    rfl
  exact ⟨hsame, fun arguments arguments' verbose verbose' command command' =>
    exists_run_resolve_same hsame command command'⟩

/-- A file of three snippets with the names `q`, `none` and `q`, written in both forms that a
snippet can have. -/
def regroupedText : String :=
  "[\x7b\"extra\":[\x7b\x7d],\"imports\":[\"q\",\"none\"]\x7d,[[],\"x\"]," ++
    "\x7b\"imports\":[\"q\"],\"language\":\"ts\"\x7d]"

/-- What that text says. -/
def regroupedBlocks : List Json :=
  [.object [(.text "extra", .array [.object []]),
      (.text "imports", .array [.string (.text "q"), .string (.text "none")])],
    .array [.array [], .string (.text "x")],
    .object [(.text "imports", .array [.string (.text "q")]),
      (.text "language", .string (.text "ts"))]]

/-- A package `q` beside a file that declares its name twice, once in each of two forms. -/
def regroupedWorld : World :=
  .fresh ⟨[(["node_modules"], ⟨.directory, 1, Mode.directory, 0⟩),
    (["node_modules", "q"], ⟨.directory, 2, Mode.directory, 0⟩),
    (["node_modules", "q", "q.d.ts"], ⟨.file "let q".toUTF8, 3, Mode.file, 0⟩),
    (["b.json"], ⟨.file regroupedText.toUTF8, 4, Mode.file, 0⟩)], 5, 0⟩
    [] [] fun _ => "aaaaaa"

/-- The names `q`, `none` and `q` are found as in that file, where the second is in a snippet with
members that nobody reads and a snippet without names stands before the last. -/
theorem same_answer_from_both_sources_regrouped :
    (parse ["resolve", "--dedupe", "q", "none", "q"] = .ok
        ⟨.resolve (.names ["q", "none", "q"]) ⟨"node_modules"⟩ true, false⟩ ∧
      parse ["resolve", "--dedupe", "--blocks", "b.json"] = .ok
        ⟨.resolve (.file ⟨"b.json"⟩) ⟨"node_modules"⟩ true, false⟩ ∧
      (manifestOf regroupedWorld (.file ⟨"b.json"⟩) ⟨"node_modules"⟩ true).toOption.isSome = true ∧
      ∃ after exit after' exit',
        run regroupedWorld ["resolve", "--dedupe", "q", "none", "q"] = some (after, exit) ∧
        run regroupedWorld ["resolve", "--dedupe", "--blocks", "b.json"] = some (after', exit') ∧
        exit'.status = exit.status ∧ exit'.output = exit.output ∧ exit'.error = exit.error) ∧
    parse (resolveArguments "node_modules" true ("--" :: ["--dedupe", ""])) =
      .ok ⟨.resolve (.names ["--dedupe", ""]) ⟨"node_modules"⟩ true, false⟩ := by
  have command : parse ["resolve", "--dedupe", "q", "none", "q"] = .ok
      ⟨.resolve (.names ["q", "none", "q"]) ⟨"node_modules"⟩ true, false⟩ := by rfl
  have command' : parse ["resolve", "--dedupe", "--blocks", "b.json"] = .ok
      ⟨.resolve (.file ⟨"b.json"⟩) ⟨"node_modules"⟩ true, false⟩ := by rfl
  have read : regroupedWorld.disk.readText regroupedWorld.cwd ⟨"b.json"⟩ = .ok regroupedText := by
    decide +kernel
  have parsed : Json.parse? regroupedText = some (.array regroupedBlocks) := by
    have written : regroupedText = (Json.array regroupedBlocks).compact := by decide +kernel
    rw [written]
    exact Json.parse?_compact (by simp [Json.IsPrintable, Json.ArePrintable, Json.HavePrintable,
      regroupedBlocks])
  have accepted : (Snippet.listOfText? regroupedText).isSome = true := by decide +kernel
  obtain ⟨same, answer⟩ := same_answer_from_both_sources.1 regroupedWorld ⟨"b.json"⟩
    ⟨"node_modules"⟩ true regroupedText regroupedBlocks read parsed accepted
  refine ⟨⟨command, command', by decide +kernel, answer _ _ _ _ command command'⟩, ?_⟩
  exact (same_answer_from_both_sources.2.1 "node_modules" "b.json" true ["--dedupe", ""] (by decide)
    (by decide)).1

end CommandLine

end SnippetForge
