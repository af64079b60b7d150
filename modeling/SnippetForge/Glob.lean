/-!
# Faults of a glob

A glob is a pattern for paths: `*` and `?` are wildcards, brackets hold a class of characters,
braces hold alternatives, and a backslash takes the next character literally. Not every text is a
glob. This file finds the first fault of a text that is none.

A class may be negated by `!` or `^`. Its first character is taken literally even if it is the
closing bracket or a hyphen; after that a hyphen between two characters makes a range, whose end
may not come before its start. A hyphen after a range moves the end of that range.
-/

namespace SnippetForge

/-- Why a text is no glob. -/
inductive GlobFault
  | unclosedClass
  | invalidRange (first last : Char)
  | unclosedAlternates
  | unopenedAlternates
  | danglingEscape
  deriving DecidableEq, Repr

/-- The words for a fault. -/
def GlobFault.words : GlobFault → String
  | .unclosedClass => "unclosed character class; missing ']'"
  | .invalidRange first last =>
    "invalid range; '" ++ String.singleton first ++ "' > '" ++ String.singleton last ++ "'"
  | .unclosedAlternates =>
    "unclosed alternate group; missing '\x7d' (maybe escape '\x7b' with '[\x7b]'?)"
  | .unopenedAlternates =>
    "unopened alternate group; missing '\x7b' (maybe escape '\x7d' with '[\x7d]'?)"
  | .danglingEscape => "dangling '\\'"

namespace Glob

/-- What a class expects next. -/
inductive ClassState
  /-- Its first character. -/
  | opening
  /-- Any character; `low` is the last one, or the start of the range before. -/
  | after (low : Char)
  /-- The end of a range that starts at `low`. -/
  | rangeFrom (low : Char)
  deriving DecidableEq, Repr

/-- Reads a class after its opening bracket and its negation, and gives what follows it. -/
def readClass : ClassState → List Char → Except GlobFault (List Char)
  | _, [] => .error .unclosedClass
  | .opening, c :: rest => readClass (.after c) rest
  | .after low, c :: rest =>
    if c = ']' then .ok rest
    else if c = '-' then readClass (.rangeFrom low) rest
    else readClass (.after c) rest
  | .rangeFrom low, c :: rest =>
    if c = ']' then .ok rest
    else if c < low then .error (.invalidRange low c)
    else readClass (.after low) rest

/-- Skips the sign that negates a class. -/
def skipNegation : List Char → List Char
  | c :: rest => if c = '!' ∨ c = '^' then rest else c :: rest
  | [] => []

/-- Reads a glob. `depth` counts the open groups of alternatives; `fuel` bounds the characters
left. -/
def scan : Nat → (depth : Nat) → List Char → Except GlobFault Unit
  | 0, _, _ => .ok ()
  | _ + 1, depth, [] => if depth = 0 then .ok () else .error .unclosedAlternates
  | fuel + 1, depth, c :: rest =>
    if c = '[' then
      match readClass .opening (skipNegation rest) with
      | .error fault => .error fault
      | .ok rest => scan fuel depth rest
    else if c = '\x7b' then scan fuel (depth + 1) rest
    else if c = '\x7d' then
      match depth with
      | 0 => .error .unopenedAlternates
      | depth + 1 => scan fuel depth rest
    else if c = '\\' then
      match rest with
      | [] => .error .danglingEscape
      | _ :: rest => scan fuel depth rest
    else scan fuel depth rest

/-- The first fault of a glob, if it has one. -/
def fault? (glob : String) : Option GlobFault :=
  match scan (glob.length + 1) 0 glob.toList with
  | .ok () => none
  | .error fault => some fault

/-- The text that reports a fault of a glob. -/
def faultMessage (glob : String) (fault : GlobFault) : String :=
  "error parsing glob '" ++ glob ++ "': " ++ fault.words

end Glob

end SnippetForge
