import SnippetForge.Shell.Awk.Sought

/-!
# Records and fields

A text is cut into records, and a record into fields, by a separator: blanks, single characters, what
matches a pattern, or nothing at all. Empty lines can separate records too.
-/

namespace SnippetForge.Shell.Awk

/-- What separates the parts of a text. -/
inductive Separator
  /-- Blanks and line ends, which do not count at the start and at the end. -/
  | blanks
  /-- Nothing; every character is a part. -/
  | nothing
  | char (c : Char)
  | pattern (e : Expression)

namespace Separator

/-- The separator that a text means, or the flaw of it as a pattern. -/
def ofText (s : String) : Except SoughtFlaw Separator :=
  match s.toList with
  | [] => .ok .nothing
  | [' '] => .ok .blanks
  | [c] => .ok (.char c)
  | cs => (Sought.read cs).map Separator.pattern

/-- Whether a character separates like a blank. -/
def isGap (c : Char) : Bool :=
  c == ' ' || c == '\t' || c == '\n'

/-- The words between blanks. `current` is the word so far, last character first. -/
def wordsOf : (current : List Char) → List Char → List String
  | [], [] => []
  | current, [] => [String.ofList current.reverse]
  | current, c :: cs =>
    if isGap c then
      if current.isEmpty then wordsOf [] cs else String.ofList current.reverse :: wordsOf [] cs
    else wordsOf (c :: current) cs

/-- The first match that is not empty, at or after a place. -/
def firstFull? (text : Array Char) (e : Expression) : (fuel : Nat) → (start : Nat) →
    Option (Nat × Nat)
  | 0, _ => none
  | fuel + 1, start =>
    match Sought.find? text e start with
    | none => none
    | some (i, j) => if i < j then some (i, j) else firstFull? text e fuel (i + 1)

/-- The parts of a text between matches, from a place on. -/
def partsBetween (text : Array Char) (e : Expression) : (fuel : Nat) → (start : Nat) →
    List String
  | 0, _ => []
  | fuel + 1, start =>
    match firstFull? text e (text.size + 1) start with
    | some (i, j) =>
      String.ofList (text.extract start i).toList :: partsBetween text e fuel j
    | none => [String.ofList (text.extract start text.size).toList]

/-- The parts of a text. A text without characters has none. -/
def split (k : Separator) (s : String) : List String :=
  if s = "" then []
  else
    match k with
    | .blanks => wordsOf [] s.toList
    | .nothing => s.toList.map String.singleton
    | .char c => (s.toList.splitOn c).map String.ofList
    | .pattern e =>
      let text := s.toList.toArray
      partsBetween text e (text.size + 1) 0

end Separator

/-- What separates records. -/
inductive RecordEnd
  | char (c : Char)
  | emptyLines
  | pattern (e : Expression)

namespace RecordEnd

/-- What a text means that separates records. -/
def ofText (s : String) : Except SoughtFlaw RecordEnd :=
  match s.toList with
  | [] => .ok .emptyLines
  | [c] => .ok (.char c)
  | cs => (Sought.read cs).map RecordEnd.pattern

/-- The lines up to an empty one, and what follows that. `current` is read already, last character
first. None if there is no empty line. -/
def untilEmptyLine : (current : List Char) → List Char → Option (List Char × List Char)
  | _, [] => none
  | current, '\n' :: '\n' :: rest => some (current.reverse, rest)
  | current, c :: rest => untilEmptyLine (c :: current) rest

/-- The first record of a text and what follows it, and whether its end was seen. None if there is
no record. -/
def next? (k : RecordEnd) (cs : List Char) : Option (List Char × List Char × Bool) :=
  match k with
  | .char c =>
    let front := cs.takeWhile (· != c)
    match cs.drop front.length with
    | _ :: rest => some (front, rest, true)
    | [] => if front.isEmpty then none else some (front, [], false)
  | .emptyLines =>
    let cs := cs.dropWhile (· == '\n')
    match untilEmptyLine [] cs with
    | some (front, rest) => some (front, rest.dropWhile (· == '\n'), true)
    | none =>
      let kept := (cs.reverse.dropWhile (· == '\n')).reverse
      if kept.isEmpty then none else some (kept, [], false)
  | .pattern e =>
    let text := cs.toArray
    match Separator.firstFull? text e (text.size + 1) 0 with
    | some (i, j) => some (cs.take i, cs.drop j, j < text.size)
    | none => if cs.isEmpty then none else some (cs, [], false)

end RecordEnd

end SnippetForge.Shell.Awk
