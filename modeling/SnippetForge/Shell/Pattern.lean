import SnippetForge.Shell.Syntax

/-!
# Patterns of names

A pattern has wildcards, sets and characters that stand for themselves, and must match a whole
text. It selects branches, drops parts of values and names files. A quoted character always stands
for itself.
-/

namespace SnippetForge.Shell

/-! ### Classes of characters -/

/-- A class of characters that has a name. -/
inductive CharClass
  | alnum
  | alpha
  | blank
  | control
  | digit
  | graph
  | lower
  | printable
  | punct
  | space
  | upper
  | hexDigit
  deriving DecidableEq, Repr

namespace CharClass

/-- The classes by their names. -/
def table : List (String × CharClass) :=
  [("alnum", .alnum), ("alpha", .alpha), ("blank", .blank), ("cntrl", .control),
    ("digit", .digit), ("graph", .graph), ("lower", .lower), ("print", .printable),
    ("punct", .punct), ("space", .space), ("upper", .upper), ("xdigit", .hexDigit)]

/-- The class of a name. -/
def ofName? (name : String) : Option CharClass :=
  table.lookup name

/-- Whether a class holds a character. -/
def holds (k : CharClass) (c : Char) : Bool :=
  match k with
  | .alnum => c.isAlphanum
  | .alpha => c.isAlpha
  | .blank => c == ' ' || c == '\t'
  | .control => c.toNat < 32 || c.toNat == 127
  | .digit => c.isDigit
  | .graph => 32 < c.toNat && c.toNat < 127
  | .lower => c.isLower
  | .printable => 31 < c.toNat && c.toNat < 127
  | .punct => 32 < c.toNat && c.toNat < 127 && !c.isAlphanum
  | .space => c == ' ' || (8 < c.toNat && c.toNat < 14)
  | .upper => c.isUpper
  | .hexDigit => c.isDigit || ('a' ≤ c && c ≤ 'f') || ('A' ≤ c && c ≤ 'F')

end CharClass

/-- An item of a set of characters. -/
inductive SetItem
  | range (first last : Char)
  | named (k : CharClass)
  deriving DecidableEq, Repr

namespace SetItem

/-- The item that holds one character. -/
def single (c : Char) : SetItem :=
  .range c c

/-- Whether an item holds a character. -/
def holds (c : Char) : SetItem → Bool
  | .range first last => first ≤ c && c ≤ last
  | .named k => k.holds c

end SetItem

/-! ### Patterns -/

/-- A character, and whether it was quoted and so stands for itself. -/
abbrev Glyph := Char × Bool

/-- A part of a pattern. -/
inductive PatternPart
  /-- Any number of characters. -/
  | many
  /-- Any character. -/
  | any
  | set (isNegated : Bool) (items : List SetItem)
  | char (c : Char)
  deriving DecidableEq, Repr

/-- A pattern. -/
abbrev Pattern := List PatternPart

namespace Pattern

/-- The class between an opening bracket and the colon and bracket that close it, and what follows
them. -/
def readClass (glyphs : List Glyph) : Option (CharClass × List Glyph) :=
  match glyphs with
  | (':', false) :: rest =>
    let name := rest.takeWhile fun g => g.1.isLower
    match rest.drop name.length, CharClass.ofName? (String.ofList (name.map (·.1))) with
    | (':', _) :: (']', _) :: rest, some k => some (k, rest)
    | _, _ => none
  | _ => none

/-- A character of a set, which a backslash can protect. -/
def readMember (glyphs : List Glyph) : Option (Char × List Glyph) :=
  match glyphs with
  | ('\\', false) :: (c, _) :: rest => some (c, rest)
  | (c, _) :: rest => some (c, rest)
  | [] => none

/-- Reads the items of a set up to its closing bracket, which cannot be the first item. -/
def readSet : Nat → (isFirst : Bool) → List Glyph → Option (List SetItem × List Glyph)
  | 0, _, _ => none
  | fuel + 1, isFirst, glyphs =>
    match glyphs with
    | [] => none
    | g :: rest =>
      if g = (']', false) && !isFirst then some ([], rest)
      else
        match if g = ('[', false) then readClass rest else none with
        | some (k, rest) => (readSet fuel false rest).map fun p => (.named k :: p.1, p.2)
        | none => do
          let (first, rest) ← readMember glyphs
          let isRange :=
            match rest with
            | ('-', false) :: next :: _ => next != (']', false)
            | _ => false
          if isRange then
            let (last, rest) ← readMember (rest.drop 1)
            (readSet fuel false rest).map fun p => (.range first last :: p.1, p.2)
          else (readSet fuel false rest).map fun p => (.single first :: p.1, p.2)

/-- Reads the pattern that glyphs spell. A set that is not closed stands for itself. -/
def read : Nat → List Glyph → Pattern
  | 0, _ => []
  | _ + 1, [] => []
  | fuel + 1, (c, isQuoted) :: rest =>
    let self : Pattern := .char c :: read fuel rest
    if isQuoted then self
    else if c = '*' then .many :: read fuel rest
    else if c = '?' then .any :: read fuel rest
    else if c = '[' then
      let isNegated := rest.head? == some ('!', false)
      match readSet (rest.length + 1) true (if isNegated then rest.drop 1 else rest) with
      | some (items, after) => .set isNegated items :: read fuel after
      | none => self
    else if c = '\\' then
      match rest with
      | (c, _) :: rest => .char c :: read fuel rest
      | [] => self
    else self

/-- The pattern that glyphs spell. -/
def ofGlyphs (glyphs : List Glyph) : Pattern :=
  read (glyphs.length + 1) glyphs

/-- A pattern in which sets are negated by one mark only. -/
def withOneMark : List Char → List Char
  | '\\' :: c :: rest => '\\' :: c :: withOneMark rest
  | '[' :: '^' :: rest => '[' :: '!' :: withOneMark rest
  | c :: rest => c :: withOneMark rest
  | [] => []

/-- The pattern that a program takes a text for. -/
def ofText (text : String) : Pattern :=
  ofGlyphs ((withOneMark text.toList).map fun c => (c, false))

/-- Whether a pattern matches more than one text. -/
def hasWildcard (pattern : Pattern) : Bool :=
  pattern.any fun part =>
    match part with
    | .char _ => false
    | _ => true

/-- The text of a pattern without wildcards. -/
def literalText (pattern : Pattern) : String :=
  String.ofList (pattern.filterMap fun part =>
    match part with
    | .char c => some c
    | _ => none)

/-- Whether a pattern matches a whole text. -/
def accepts : Pattern → List Char → Bool
  | [], text => text.isEmpty
  | .many :: pattern, text => acceptsEnd pattern text
  | .any :: pattern, text =>
    match text with
    | _ :: rest => accepts pattern rest
    | [] => false
  | .set isNegated items :: pattern, text =>
    match text with
    | c :: rest => (items.any (·.holds c) != isNegated) && accepts pattern rest
    | [] => false
  | .char c :: pattern, text =>
    match text with
    | d :: rest => c == d && accepts pattern rest
    | [] => false
where
  /-- Whether a pattern matches some end of a text. -/
  acceptsEnd (pattern : Pattern) : List Char → Bool
    | [] => accepts pattern []
    | c :: rest => accepts pattern (c :: rest) || acceptsEnd pattern rest

/-- Drops what a pattern matches at the start or at the end of a text, the shortest or the longest
part. -/
def dropMatch (pattern : Pattern) (isAtEnd isLongest : Bool) (text : List Char) : List Char :=
  let sizes := List.range (text.length + 1)
  let sizes := if isLongest then sizes.reverse else sizes
  let part (n : Nat) : List Char := if isAtEnd then text.drop (text.length - n) else text.take n
  match sizes.find? fun n => accepts pattern (part n) with
  | some n => if isAtEnd then text.take (text.length - n) else text.drop n
  | none => text

end Pattern

end SnippetForge.Shell
