import SnippetForge.Text.Characters

/-!
# Names in messages

How programs show names and other words in what they say: between single quotes as a shell would
read them back, without quotes where a shell needs none, or between the quotation marks of a text.
Characters that have no sign of their own are written by their numbers.
-/

namespace SnippetForge.Shell.Utility

/-- A text between single quotes. -/
def inQuotes (text : String) : String :=
  "'" ++ text ++ "'"

/-! ### Characters -/

/-- The letter of a control character after a backslash. -/
def controlLetters : List (Nat × Char) :=
  [(7, 'a'), (8, 'b'), (9, 't'), (10, 'n'), (11, 'v'), (12, 'f'), (13, 'r')]

/-- An octet by its number. -/
def octalEscape (c : Char) : List Char :=
  let n := c.toNat
  '\\' :: [n / 64 % 8, n / 8 % 8, n % 8].map fun d => Char.ofNat (48 + d)

/-- A character by its number or letter, as it is written after a dollar sign. -/
def escapeText (c : Char) : List Char :=
  match controlLetters.lookup c.toNat with
  | some letter => ['\\', letter]
  | none => (Text.octetsOfChar c).flatMap octalEscape

/-- Whether a character is shown as it is. -/
def hasSign (c : Char) : Bool :=
  let n := c.toNat
  (31 < n && n < 127) || (0x9F < n && n != 0x2028 && n != 0x2029 && !Text.isStray c)

/-! ### As a shell reads them -/

/-- The inside of a quoted name. `isEscaping` tells whether the last character was written by its
number. -/
def quotedChars : (isEscaping : Bool) → List Char → List Char
  | _, [] => []
  | isEscaping, c :: rest =>
    if hasSign c then
      (if isEscaping then ['\'', '\''] else [])
        ++ (if c = '\'' then ['\'', '\\', '\'', '\''] else Text.octetsOfChar c)
        ++ quotedChars false rest
    else
      (if isEscaping then [] else ['\'', '$', '\'']) ++ escapeText c ++ quotedChars true rest

/-- A name in quotes, so that a shell reads it back. -/
def quoted (name : String) : String :=
  let cs := (Text.characters name).toList
  let isPlain (c : Char) : Bool :=
    hasSign c && c != '"' && c != '$' && c != '\\' && c.toNat != 96
  if cs.contains '\'' && cs.all isPlain then "\"" ++ name ++ "\""
  else
    let endsEscaping := (cs.getLast?).any fun c => !hasSign c
    inQuotes (String.ofList (quotedChars (cs.contains '\'' && endsEscaping) cs))

/-- Whether a shell would read a name as something else if it were not quoted. -/
def needsQuotes (name : String) : Bool :=
  let cs := (Text.characters name).toList
  cs.isEmpty || cs == ['\x7b'] || cs == ['\x7d'] || (cs.head?).any (fun c => c == '#' || c == '~') ||
    cs.any fun c =>
      c == ' ' || !hasSign c || c.toNat == 96 || "!\"$&'()*:;<=>?[\\^|".toList.contains c

/-- A name in front of what is said about it. -/
def nameText (name : String) : String :=
  if needsQuotes name then quoted name else name

/-! ### Between quotation marks -/

/-- A character between quotation marks. -/
def markedChar (c : Char) : List Char :=
  if c = '\\' then ['\\', '\\'] else if hasSign c then Text.octetsOfChar c else escapeText c

/-- A text between quotation marks. -/
def marked (text : String) : String :=
  Text.encoded "‘" ++ String.ofList ((Text.characters text).toList.flatMap markedChar)
    ++ Text.encoded "’"

end SnippetForge.Shell.Utility
