import SnippetForge.Language
import SnippetForge.Report

/-!
# Compiled bundles

What a compilation gives: the text of the bundle, the extension of the entry file with how it was
chosen, everything the toolchain reported without failing, and how long it took.
-/

namespace SnippetForge

/-- The result of a compilation. -/
structure Bundle where
  code : String
  extension : EntryExtension
  diagnostics : List Diagnostic
  /-- The time from staging to the end, in milliseconds. -/
  elapsed : Nat
  deriving DecidableEq, Repr

namespace Bundle

/-- The JSON of a bundle. -/
def toJson (b : Bundle) : Json :=
  Json.record [("code", Json.ofText b.code), ("extension", b.extension.toJson),
    ("diagnostics", .array (b.diagnostics.map Diagnostic.toJson)),
    ("compile_time_ms", Json.ofNat b.elapsed)]

end Bundle

end SnippetForge
