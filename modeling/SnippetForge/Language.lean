import SnippetForge.Json.Basic

/-!
# Languages and file extensions

A snippet carries a language tag, which is text from the outside. Two tags name languages with an
extension of their own. Any other tag is taken literally as the extension if it can be one: at
least one and at most sixteen bytes, all of them letters or digits of ASCII. A tag that cannot be
an extension gives the extension of plain scripts. Which way an extension was chosen is kept with
it, so that a substitution can be reported.
-/

namespace SnippetForge

/-- The languages with a tag of their own. -/
inductive Language
  | typeScript
  | javaScript
  deriving DecidableEq, Repr

namespace Language

/-- The language of a tag. Tags are compared exactly. -/
def ofTag? (tag : String) : Option Language :=
  if tag = "typescript" then some .typeScript
  else if tag = "javascript" then some .javaScript
  else none

/-- The name of a language. -/
def name : Language → String
  | .typeScript => "TypeScript"
  | .javaScript => "JavaScript"

/-- The extension of files in a language. -/
def extension : Language → String
  | .typeScript => "ts"
  | .javaScript => "js"

end Language

/-- Why an extension is not that of a known language. -/
inductive Substitution
  /-- The tag itself serves as the extension. -/
  | literalTag
  /-- The tag cannot be an extension. -/
  | default
  deriving DecidableEq, Repr

namespace Substitution

/-- The name of a substitution in messages. -/
def name : Substitution → String
  | .literalTag => "LiteralTag"
  | .default => "Default"

/-- The name of a substitution in JSON. -/
def key : Substitution → String
  | .literalTag => "literal_tag"
  | .default => "default"

end Substitution

/-- The extension of an entry file and how it was chosen. -/
structure EntryExtension where
  extension : String
  fallback : Option Substitution
  deriving DecidableEq, Repr

namespace EntryExtension

/-- The extension of plain scripts. -/
def standard : String := "js"

/-- The longest tag that is taken literally, in bytes. -/
def maxLiteral : Nat := 16

/-- Whether a tag can be an extension itself. -/
def isUsable (tag : String) : Bool :=
  tag != "" && tag.utf8ByteSize ≤ maxLiteral && tag.toList.all Char.isAlphanum

/-- The extension for a language tag. -/
def ofTag (tag : String) : EntryExtension :=
  match Language.ofTag? tag with
  | some language => ⟨language.extension, none⟩
  | none =>
    if isUsable tag then ⟨tag, some .literalTag⟩ else ⟨standard, some .default⟩

/-- Whether the extension of plain scripts stands in for an unusable tag. -/
def usedDefault (e : EntryExtension) : Bool :=
  e.fallback == some .default

/-- The name of the entry file. -/
def fileName (e : EntryExtension) : String :=
  "index." ++ e.extension

/-- The JSON of an extension. -/
def toJson (e : EntryExtension) : Json :=
  Json.record [("extension", Json.ofText e.extension),
    ("fallback", match e.fallback with
      | some s => Json.ofText s.key
      | none => .null)]

end EntryExtension

end SnippetForge
