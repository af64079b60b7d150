/-!
# JSON values

A value as its text gives it. Two choices keep it close to the text. A number is the digits it was
written with: nothing here computes with numbers, so no size is too large. A string literal is
well formed as soon as its escapes are, yet it denotes a text only if the surrogates among them
come in pairs; a literal that denotes none is kept as such, since a value that nobody looks at may
hold one.
-/

namespace SnippetForge

/-- What a string literal denotes. -/
inductive Literal
  /-- A text. -/
  | text (value : String)
  /-- No text: an escape names a surrogate without its partner. -/
  | unpaired
  deriving DecidableEq, Repr

/-- A JSON value. -/
inductive Json
  | null
  | bool (value : Bool)
  | number (digits : String)
  | string (literal : Literal)
  | array (items : List Json)
  | object (members : List (Literal × Json))

namespace Json

/-- The string value of a text. -/
def ofText (s : String) : Json :=
  .string (.text s)

/-- The array of some texts. -/
def ofTexts (texts : List String) : Json :=
  .array (texts.map ofText)

/-- The object with the given members, in order. -/
def record (members : List (String × Json)) : Json :=
  .object (members.map fun m => (.text m.1, m.2))

/-- The number of a natural number. -/
def ofNat (n : Nat) : Json :=
  .number (String.ofList (Nat.toDigits 10 n))

end Json

end SnippetForge
