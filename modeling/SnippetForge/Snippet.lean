import SnippetForge.Json.Record

/-!
# Snippets

A snippet is a runnable code block of a guide page: the modules it imports, in the order in which
it declares them, its source text and the tag of its language. In JSON every field may be missing
and then counts as empty.
-/

namespace SnippetForge

/-- A runnable code block. -/
structure Snippet where
  imports : List String
  source : String
  language : String
  deriving DecidableEq, Repr

namespace Snippet

/-- A snippet that only declares imports. -/
def ofImports (imports : List String) : Snippet :=
  ⟨imports, "", ""⟩

/-- The JSON of a snippet. -/
def toJson (s : Snippet) : Json :=
  Json.record [("imports", Json.ofTexts s.imports), ("source", Json.ofText s.source),
    ("language", Json.ofText s.language)]

/-- The snippet that a JSON value describes. -/
def ofJson? (v : Json) : Option Snippet :=
  match v.fields? ["imports", "source", "language"] with
  | some [imports, source, language] =>
    match Json.optional? Json.texts? [] imports, Json.optional? Json.text? "" source,
        Json.optional? Json.text? "" language with
    | some imports, some source, some language => some ⟨imports, source, language⟩
    | _, _, _ => none
  | _ => none

/-- The snippets that a JSON text lists. -/
def listOfText? (text : String) : Option (List Snippet) :=
  (Json.parse? text).bind (Json.list? ofJson?)

end Snippet

end SnippetForge
