import SnippetForge.Json.Reader
import SnippetForge.Json.Printer

/-!
# Records in JSON

A record is read from either of two forms. An object gives its fields by name, in any order; other
members are passed over, but a field that occurs twice or a key that is no text makes the whole
unreadable. An array gives the fields in the order of their declaration and may stop early, but
holds nothing beyond the last one. In both forms a missing field is reported as missing, and the
reader of the record decides whether that is an error.
-/

namespace SnippetForge.Json

/-- The text of a string value. -/
def text? : Json → Option String
  | .string (.text s) => some s
  | _ => none

/-- The items of an array. -/
def items? : Json → Option (List Json)
  | .array items => some items
  | _ => none

/-- The list that an array holds, every item read by the same reader. -/
def list? {α : Type} (read? : Json → Option α) (v : Json) : Option (List α) :=
  v.items?.bind fun items => items.mapM read?

/-- The texts that an array holds. -/
def texts? (v : Json) : Option (List String) :=
  v.list? text?

/-- The value under a name, in its own option if the name does not occur; nothing at all if it
occurs twice. -/
def unique? (name : String) (members : List (String × Json)) : Option (Option Json) :=
  match members.filter fun m => m.1 == name with
  | [] => some none
  | [m] => some (some m.2)
  | _ => none

/-- The text of a key. -/
def Literal.key? (m : Literal × Json) : Option (String × Json) :=
  match m.1 with
  | .text s => some (s, m.2)
  | .unpaired => none

/-- The fields of a record in the order of the names, each with its value if it is there. -/
def fields? (names : List String) : Json → Option (List (Option Json))
  | .object members =>
    (members.mapM Literal.key?).bind fun keyed => names.mapM fun name => unique? name keyed
  | .array items =>
    if items.length ≤ names.length then
      some (items.map some ++ List.replicate (names.length - items.length) none)
    else none
  | _ => none

/-- A field that must be there. -/
def required? {α : Type} (read? : Json → Option α) (field : Option Json) : Option α :=
  field.bind read?

/-- A field that stands for a default if it is missing. -/
def optional? {α : Type} (read? : Json → Option α) (default : α) : Option Json → Option α
  | none => some default
  | some v => read? v

end SnippetForge.Json
