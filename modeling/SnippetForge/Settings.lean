import SnippetForge.Duration
import SnippetForge.Path
import SnippetForge.Text.Quoted

/-!
# Settings of the compiler

Where the project lies, where staging directories are made, which program runs the bundler, how
typed sources are transpiled, and how long a run may take. Staging inside the project lets
snippets import the packages that the project has installed.
-/

namespace SnippetForge

/-- What stays the same over many compilations. -/
structure Settings where
  projectRoot : Path
  stagingRoot : Path
  nodePath : Option Path
  loader : String
  loaderConfigFile : Path
  transpilePattern : String
  vendorPattern : String
  timeout : Option Duration
  deriving DecidableEq, Repr

namespace Settings

/-- Settings for a project in which staging happens too. -/
def forProject (root : Path) : Settings where
  projectRoot := root
  stagingRoot := root
  nodePath := none
  loader := "ts-loader"
  loaderConfigFile := ⟨"codeblock.tsconfig.json"⟩
  transpilePattern := "\\.tsx?$"
  vendorPattern := "node_modules"
  timeout := none

/-- Settings for the project in the current directory. -/
def standard : Settings :=
  forProject ⟨"."⟩

/-- The description of an optional value: its text in brackets, or the word for none. -/
def describeOption : Option String → String
  | some text => "Some(" ++ text ++ ")"
  | none => "None"

/-- A description of the compiler with these settings. -/
def describe (s : Settings) : String :=
  "EphemeralCompiler \x7b config: CompilerConfig \x7b project_root: "
    ++ Text.quoted s.projectRoot.text
    ++ ", staging_root: " ++ Text.quoted s.stagingRoot.text
    ++ ", node_path: " ++ describeOption (s.nodePath.map fun p => Text.quoted p.text)
    ++ ", loader: " ++ Text.quoted s.loader
    ++ ", loader_config_file: " ++ Text.quoted s.loaderConfigFile.text
    ++ ", transpile_pattern: " ++ Text.quoted s.transpilePattern
    ++ ", vendor_pattern: " ++ Text.quoted s.vendorPattern
    ++ ", timeout: " ++ describeOption (s.timeout.map Duration.text)
    ++ " \x7d, .. \x7d"

end Settings

end SnippetForge
