import SnippetForge.Shell.Expression
import SnippetForge.Shell.Format

/-!
# What records are searched for

The dialect of regular expressions in programs for records. It has the operators of the extended
dialect; letters after a backslash can stand for characters that are not shown, in sets too.
-/

namespace SnippetForge.Shell.Awk

/-- Why a text is no pattern for records. -/
inductive SoughtFlaw
  | badSet
  | openGroup
  | noOperand
  | badInterval
  | repeatedStart
  deriving DecidableEq, Repr

/-- The words for a flaw. -/
def SoughtFlaw.words : SoughtFlaw → String
  | .badSet => "bad class -- [], [^] or ["
  | .openGroup => "missing ')'"
  | .noOperand => "missing operand"
  | .badInterval => "bad interval expression"
  | .repeatedStart => "syntax error ^* or ^+"

namespace Sought

/-- The character after a backslash, and what follows it. -/
def readEscaped : List Char → Char × List Char
  | [] => ('\\', [])
  | c :: rest =>
    if '0' ≤ c && c ≤ '7' then
      let (value, rest) := readOctal 3 0 (c :: rest)
      (octet value, rest)
    else
      match c with
      | 'n' => ('\n', rest)
      | 't' => ('\t', rest)
      | 'r' => ('\r', rest)
      | 'f' => ('\x0c', rest)
      | 'v' => ('\x0b', rest)
      | 'a' => ('\x07', rest)
      | 'b' => ('\x08', rest)
      | c => (c, rest)

/-! ### Sets -/

/-- One character of a set. -/
def readMember : List Char → Option (Char × List Char)
  | [] => none
  | '\\' :: rest => some (readEscaped rest)
  | c :: rest => some (c, rest)

/-- Reads the items of a set up to its closing bracket. A range whose ends are in the wrong order is
three characters. -/
def readSet : Nat → (isFirst : Bool) → List Char → Option (List SetItem × List Char)
  | 0, _, _ => none
  | fuel + 1, isFirst, cs =>
    let goOn (items : List SetItem) (rest : List Char) : Option (List SetItem × List Char) :=
      (readSet fuel false rest).map fun p => (items ++ p.1, p.2)
    match cs with
    | [] => none
    | '[' :: ':' :: rest =>
      match Expression.readNamed ':' rest with
      | some (name, rest) =>
        match CharClass.ofName? (String.ofList name) with
        | some k => goOn [.named k] rest
        | none => none
      | none => goOn [.single '['] (':' :: rest)
    | c :: rest =>
      if c = ']' && !isFirst then some ([], rest)
      else
        match readMember (c :: rest) with
        | none => none
        | some (first, '-' :: next :: more) =>
          if next = ']' then goOn [.single first] ('-' :: next :: more)
          else
            match readMember (next :: more) with
            | none => none
            | some (last, rest) =>
              if last < first then goOn [.single first, .single '-', .single last] rest
              else goOn [.range first last] rest
        | some (first, rest) => goOn [.single first] rest

/-- Reads a set after its opening bracket. -/
def readBracket (cs : List Char) : Except SoughtFlaw (Expression × List Char) :=
  let (isNegated, cs) : Bool × List Char :=
    match cs with
    | '^' :: cs => (true, cs)
    | cs => (false, cs)
  match readSet (cs.length + 1) true cs with
  | some (items, rest) => .ok (.set isNegated items, rest)
  | none => .error .badSet

/-! ### Repetition -/

/-- Reads bounds in braces; none if what stands there is no such thing. -/
def bounds? (cs : List Char) : Option ((Nat × Option Nat) × List Char) :=
  let first := cs.takeWhile Char.isDigit
  if first.isEmpty then none
  else
    let n := Text.digitsValue first
    match cs.drop first.length with
    | '\x7d' :: rest => some ((n, some n), rest)
    | ',' :: rest =>
      let second := rest.takeWhile Char.isDigit
      match rest.drop second.length with
      | '\x7d' :: rest =>
        some ((n, if second.isEmpty then none else some (Text.digitsValue second)), rest)
      | _ => none
    | _ => none

/-- Reads the repetitions of a part. -/
def readRepeats : Nat → Expression → List Char → Except SoughtFlaw (Expression × List Char)
  | 0, e, cs => .ok (e, cs)
  | fuel + 1, e, cs =>
    match cs with
    | '*' :: rest => readRepeats fuel (.repetition e 0 none) rest
    | '+' :: rest => readRepeats fuel (.repetition e 1 none) rest
    | '?' :: rest => readRepeats fuel (.repetition e 0 (some 1)) rest
    | '\x7b' :: rest =>
      match bounds? rest with
      | some ((least, most), rest) =>
        if most.any (· < least) then .error .badInterval
        else readRepeats fuel (.repetition e least most) rest
      | none => .ok (e, cs)
    | cs => .ok (e, cs)

/-! ### Reading -/

mutual

/-- Reads a choice up to the end of the pattern or of its group. -/
def readChoice : Nat → (depth : Nat) → List Char → Except SoughtFlaw (Expression × List Char)
  | 0, _, _ => .error .noOperand
  | fuel + 1, depth, cs => do
    let (first, rest) ← readSequence fuel depth true cs
    match rest with
    | '|' :: rest => do
      let (second, rest) ← readChoice fuel depth rest
      return (.either first second, rest)
    | rest => return (first, rest)

/-- Reads parts that follow each other, of which there is one at least. -/
def readSequence : Nat → (depth : Nat) → (isFirst : Bool) → List Char →
    Except SoughtFlaw (Expression × List Char)
  | 0, _, _, _ => .error .noOperand
  | fuel + 1, depth, isFirst, cs =>
    let ends : Bool :=
      match cs with
      | [] => true
      | '|' :: _ => true
      | ')' :: _ => 0 < depth
      | _ => false
    if ends then if isFirst then .error .noOperand else .ok (.empty, cs)
    else
      match cs with
      | [] => .ok (.empty, [])
      | c :: rest => do
        if c = '*' || c = '+' || c = '?' then throw .noOperand
        let (part, rest) ← readPart fuel depth c rest
        let isRepeated := (rest.head?).any fun c => c == '*' || c == '+'
        if c = '^' && isRepeated then throw .repeatedStart
        let (part, rest) ← readRepeats rest.length part rest
        let (e, rest) ← readSequence fuel depth false rest
        return (.both part e, rest)

/-- Reads a part that starts with a character. -/
def readPart : Nat → (depth : Nat) → Char → List Char →
    Except SoughtFlaw (Expression × List Char)
  | 0, _, _, _ => .error .noOperand
  | fuel + 1, depth, c, rest =>
    match c with
    | '.' => .ok (.any, rest)
    | '^' => .ok (.lineStart, rest)
    | '$' => .ok (.lineEnd, rest)
    | '[' => readBracket rest
    | '\\' =>
      let (c, rest) := readEscaped rest
      .ok (.char c, rest)
    | '(' => do
      if rest.isEmpty then throw .openGroup
      let (e, rest) ← readChoice fuel (depth + 1) rest
      match rest with
      | ')' :: rest => return (e, rest)
      | _ => throw .openGroup
    | c => .ok (.char c, rest)

end

/-- Reads a pattern. An empty one matches nothing at any place. -/
def read (text : List Char) : Except SoughtFlaw Expression :=
  if text.isEmpty then .ok .empty
  else (readChoice (4 * text.length + 8) 0 text).map (·.1)

/-- The first match in a text at or after a place, the longest one there. `fuel` bounds how many
places are tried. -/
def findFrom (text : Expression.Subject) (e : Expression) :
    (fuel : Nat) → (start : Nat) → Option (Nat × Nat)
  | 0, _ => none
  | fuel + 1, start =>
    match (Expression.ends text e [start]).getLast? with
    | some last => some (start, last)
    | none => findFrom text e fuel (start + 1)

/-- The first match in a text at or after a place, the longest one there. -/
def find? (text : Array Char) (e : Expression) (start : Nat) : Option (Nat × Nat) :=
  findFrom ⟨text, false, false⟩ e (text.size + 1 - start) start

/-- Whether a text has a match. -/
def holds (text : String) (e : Expression) : Bool :=
  (find? text.toList.toArray e 0).isSome

end Sought

end SnippetForge.Shell.Awk
