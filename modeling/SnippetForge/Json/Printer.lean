import SnippetForge.Json.Basic
import SnippetForge.Text.Hex

/-!
# Writing JSON

A value has two written forms. The compact one has no white space at all; the pretty one puts
every item and every member on a line of its own, indented by two spaces a level, and keeps an
empty array or object closed.

Inside a string the quote, the backslash and the controls below the space are escaped, the five
common controls by letters and the others by four lower-case digits. All other characters,
whatever their number, stand for themselves. So neither form holds a control character inside a
string, and the compact form holds none at all.
-/

namespace SnippetForge.Json

/-! ### Strings -/

/-- How one character stands in a string. -/
def escapeChar (c : Char) : List Char :=
  if c = '"' then ['\\', '"']
  else if c = '\\' then ['\\', '\\']
  else if 0x20 ≤ c.toNat then [c]
  else if c = Char.ofNat 0x08 then ['\\', 'b']
  else if c = '\t' then ['\\', 't']
  else if c = '\n' then ['\\', 'n']
  else if c = Char.ofNat 0x0C then ['\\', 'f']
  else if c = '\r' then ['\\', 'r']
  else '\\' :: 'u' :: Text.hex4 c.toNat

/-- The characters of a text between quotes. -/
def quoteChars (cs : List Char) : List Char :=
  '"' :: (cs.flatMap escapeChar ++ ['"'])

/-- A literal between quotes. One without a text is written as a single surrogate. -/
def literalChars : Literal → List Char
  | .text s => quoteChars s.toList
  | .unpaired => '"' :: '\\' :: 'u' :: (Text.hex4 0xD800 ++ ['"'])

/-! ### The compact form -/

mutual

/-- The compact form of a value. -/
def compactChars : Json → List Char
  | .null => ['n', 'u', 'l', 'l']
  | .bool true => ['t', 'r', 'u', 'e']
  | .bool false => ['f', 'a', 'l', 's', 'e']
  | .number digits => digits.toList
  | .string l => literalChars l
  | .array items => '[' :: (compactItems items ++ [']'])
  | .object members => '\x7b' :: (compactMembers members ++ ['\x7d'])

/-- Items separated by commas. -/
def compactItems : List Json → List Char
  | [] => []
  | [v] => compactChars v
  | v :: rest => compactChars v ++ ',' :: compactItems rest

/-- Members separated by commas. -/
def compactMembers : List (Literal × Json) → List Char
  | [] => []
  | [(k, v)] => literalChars k ++ ':' :: compactChars v
  | (k, v) :: rest => literalChars k ++ ':' :: (compactChars v ++ ',' :: compactMembers rest)

end

/-- The compact text of a value. -/
def compact (v : Json) : String :=
  String.ofList (compactChars v)

/-! ### The pretty form -/

/-- A line break and the indentation of a level. -/
def breakChars (level : Nat) : List Char :=
  '\n' :: List.replicate (2 * level) ' '

mutual

/-- The pretty form of a value that stands at an indentation level. -/
def prettyChars (level : Nat) : Json → List Char
  | .null => ['n', 'u', 'l', 'l']
  | .bool true => ['t', 'r', 'u', 'e']
  | .bool false => ['f', 'a', 'l', 's', 'e']
  | .number digits => digits.toList
  | .string l => literalChars l
  | .array [] => ['[', ']']
  | .array (v :: rest) =>
    '[' :: (breakChars (level + 1) ++ prettyItems (level + 1) (v :: rest)
      ++ breakChars level ++ [']'])
  | .object [] => ['\x7b', '\x7d']
  | .object (m :: rest) =>
    '\x7b' :: (breakChars (level + 1) ++ prettyMembers (level + 1) (m :: rest)
      ++ breakChars level ++ ['\x7d'])

/-- Items on lines of their own. -/
def prettyItems (level : Nat) : List Json → List Char
  | [] => []
  | [v] => prettyChars level v
  | v :: rest => prettyChars level v ++ ',' :: (breakChars level ++ prettyItems level rest)

/-- Members on lines of their own. -/
def prettyMembers (level : Nat) : List (Literal × Json) → List Char
  | [] => []
  | [(k, v)] => literalChars k ++ ':' :: ' ' :: prettyChars level v
  | (k, v) :: rest =>
    literalChars k ++ ':' :: ' ' :: (prettyChars level v ++ ',' ::
      (breakChars level ++ prettyMembers level rest))

end

/-- The pretty text of a value. -/
def pretty (v : Json) : String :=
  String.ofList (prettyChars 0 v)

end SnippetForge.Json
