import SnippetForge.Json.Basic
import SnippetForge.Settings
import SnippetForge.Staging

/-!
# Bundle requests

A bundle request tells a toolchain everything about one run: the staged entry file, where the
bundle goes, how typed sources are transpiled and which extensions imports may leave out. It
travels to the toolchain as compact JSON.

Two paths follow from a request: the bundle that the toolchain is to write, and the directory that
holds the entry.
-/

namespace SnippetForge

/-- Which files are transpiled, and how. -/
structure TranspileRule where
  test : String
  loader : String
  configFile : Path
  exclude : String
  deriving DecidableEq, Repr

/-- What a toolchain is asked to do. -/
structure Request where
  entry : Path
  outputDirectory : Path
  outputFile : String
  transpile : TranspileRule
  resolveExtensions : List String
  minimize : Bool
  deriving DecidableEq, Repr

/-- The JSON of a rule. -/
def TranspileRule.toJson (r : TranspileRule) : Json :=
  Json.record [("test", Json.ofText r.test), ("loader", Json.ofText r.loader),
    ("configFile", Json.ofText r.configFile.text), ("exclude", Json.ofText r.exclude)]

namespace Request

/-- The JSON of a request. -/
def toJson (r : Request) : Json :=
  Json.record [("entry", Json.ofText r.entry.text),
    ("outputDir", Json.ofText r.outputDirectory.text),
    ("outputFile", Json.ofText r.outputFile),
    ("transpile", r.transpile.toJson),
    ("resolveExtensions", Json.ofTexts r.resolveExtensions),
    ("minimize", .bool r.minimize)]

/-- The request for an entry in a staging area. Bundles are never shrunk: a reader is to find the
snippet in them. -/
def ofEntry (entry : Path) (area : StagingArea) (settings : Settings) : Request where
  entry := entry
  outputDirectory := area.outputDirectory
  outputFile := StagingArea.bundleName
  transpile :=
    ⟨settings.transpilePattern, settings.loader, settings.loaderConfigFile, settings.vendorPattern⟩
  resolveExtensions := [".tsx", ".ts", ".js"]
  minimize := false

/-- The bundle that the toolchain is to write. -/
def bundlePath (r : Request) : Path :=
  r.outputDirectory.child r.outputFile

/-- The directory that holds the entry. -/
def directory (r : Request) : Path :=
  (r.entry.parent?).getD ⟨"."⟩

end Request

end SnippetForge
