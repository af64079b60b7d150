import SnippetForge.Json.Record

/-!
# Module manifests

A manifest tells an editor what the modules imported by snippets look like. It has one entry for
an import: a single ambient declaration put together from the declaration files of the package,
and its implementation files, each on its own.

A package without declaration files has no entry. Its implementation files alone would tell an
editor nothing about types.
-/

namespace SnippetForge

/-- A file of a package. -/
structure SourceFile where
  filename : String
  content : String
  deriving DecidableEq, Repr

/-- What a manifest says about one import. -/
structure ManifestEntry where
  name : String
  content : String
  impls : List SourceFile
  deriving DecidableEq, Repr

namespace SourceFile

/-- The JSON of a file. -/
def toJson (f : SourceFile) : Json :=
  Json.record [("filename", Json.ofText f.filename), ("content", Json.ofText f.content)]

/-- The file that a JSON value describes. -/
def ofJson? (v : Json) : Option SourceFile :=
  match v.fields? ["filename", "content"] with
  | some [filename, content] =>
    match Json.required? Json.text? filename, Json.required? Json.text? content with
    | some filename, some content => some ⟨filename, content⟩
    | _, _ => none
  | _ => none

end SourceFile

namespace ManifestEntry

/-- The ambient declaration of a module around the texts of its declaration files. -/
def declaration (name : String) (bodies : List String) : String :=
  "declare module '" ++ name ++ "' \x7b\n" ++ String.intercalate "\n" bodies ++ "\n\x7d"

/-- The entry of an import, unless it has no declaration files. -/
def ofFiles? (name : String) (declarations impls : List SourceFile) : Option ManifestEntry :=
  if declarations.isEmpty then none
  else some ⟨name, declaration name (declarations.map (·.content)), impls⟩

theorem ofFiles?_eq_none_iff {name : String} {declarations impls : List SourceFile} :
    ofFiles? name declarations impls = none ↔ declarations = [] := by
  simp [ofFiles?]

/-- The JSON of an entry. -/
def toJson (e : ManifestEntry) : Json :=
  Json.record [("name", Json.ofText e.name), ("content", Json.ofText e.content),
    ("impls", .array (e.impls.map SourceFile.toJson))]

/-- The entry that a JSON value describes. -/
def ofJson? (v : Json) : Option ManifestEntry :=
  match v.fields? ["name", "content", "impls"] with
  | some [name, content, impls] =>
    match Json.required? Json.text? name, Json.required? Json.text? content,
        Json.required? (Json.list? SourceFile.ofJson?) impls with
    | some name, some content, some impls => some ⟨name, content, impls⟩
    | _, _, _ => none
  | _ => none

/-- The JSON of a manifest. -/
def listToJson (entries : List ManifestEntry) : Json :=
  .array (entries.map toJson)

/-- The manifest that a JSON text lists. -/
def listOfText? (text : String) : Option (List ManifestEntry) :=
  (Json.parse? text).bind (Json.list? ofJson?)

end ManifestEntry

end SnippetForge
