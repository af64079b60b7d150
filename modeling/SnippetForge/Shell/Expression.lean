import SnippetForge.Shell.Pattern
import SnippetForge.Text.Blank
import SnippetForge.Text.Characters
import SnippetForge.Text.Digits
import SnippetForge.Text.Letters

/-!
# Regular expressions

What a line is searched for: characters, sets, places in a line, groups, repetition, choice, and what
a group has matched once more. Two dialects spell them; in the basic one the operators are marked by
backslashes, in the extended one the characters that are to stand for themselves are.

An expression matches the longest part at the first place where it matches at all. The ends of its
matches from a place form a set that is computed part by part. The groups of a match come from a walk
that prefers more repetitions and earlier choices and has to end where the match ends.
-/

namespace SnippetForge.Shell

/-- A regular expression. -/
inductive Expression
  /-- Matches nothing. -/
  | empty
  | char (c : Char)
  | any
  | set (isNegated : Bool) (items : List SetItem)
  /-- The start of a line. -/
  | lineStart
  /-- The end of a line. -/
  | lineEnd
  /-- The start of the text. -/
  | textStart
  /-- The end of the text. -/
  | textEnd
  | wordStart
  | wordEnd
  /-- The start or the end of a word, or neither of them. -/
  | wordEdge (isNegated : Bool)
  | group (number : Nat) (inner : Expression)
  /-- What a group has matched. -/
  | reference (number : Nat)
  | both (first second : Expression)
  | either (first second : Expression)
  | repetition (inner : Expression) (least : Nat) (most : Option Nat)
  deriving Repr

/-- Why a text is no regular expression. -/
inductive ExpressionFlaw
  | openBracket
  /-- A bracket stands at the end. -/
  | bareBracket
  | openGroup
  | closedGroup
  | openInterval
  | badInterval
  /-- The bounds of a repetition are no numbers. -/
  | oddInterval
  | nothingToRepeat
  | badClass
  | badRange
  | badCollation
  | badReference
  | endingBackslash
  | tooBig
  | misplacedClass
  deriving DecidableEq, Repr

/-- The words for a flaw. -/
def ExpressionFlaw.words : ExpressionFlaw → String
  | .openBracket => "Unmatched [, [^, [:, [., or [="
  | .bareBracket => "Invalid regular expression"
  | .openGroup => "Unmatched ( or \\("
  | .closedGroup => "Unmatched ) or \\)"
  | .openInterval => "Unmatched \\\x7b"
  | .badInterval => "Invalid content of \\\x7b\\\x7d"
  | .oddInterval => "Invalid content of \\\x7b\\\x7d"
  | .nothingToRepeat => "Invalid preceding regular expression"
  | .badClass => "Invalid character class name"
  | .badRange => "Invalid range end"
  | .badCollation => "Invalid collation character"
  | .badReference => "Invalid back reference"
  | .endingBackslash => "Trailing backslash"
  | .tooBig => "Regular expression too big"
  | .misplacedClass => "character class syntax is [[:space:]], not [:space:]"

namespace Expression

/-! ### Dialects -/

/-- How expressions are spelled. -/
structure Dialect where
  isExtended : Bool
  /-- Whether operators of the extended dialect that have nothing to work on are let pass. -/
  isLenient : Bool
  deriving DecidableEq, Repr

/-- The characters of words. -/
def wordItems : List SetItem :=
  [.named .alnum, .single '_']

/-- Whether a character stands in words. -/
def isWordChar (c : Char) : Bool :=
  Text.isLetter c || c.isDigit || c == '_'

/-- Whether a class holds a character beyond the plain ones. -/
def classHolds (k : CharClass) (c : Char) : Bool :=
  let isBlank := Text.isBlank c && c.toNat != 0x85 && c.toNat != 0xA0 && c.toNat != 0x202F
  let isControl := c.toNat < 0xA0 || c.toNat == 0x2028 || c.toNat == 0x2029
  match k with
  | .alnum => Text.isLetter c
  | .alpha => Text.isLetter c
  | .blank => isBlank && !isControl
  | .control => isControl
  | .digit => false
  | .graph => !isBlank && !isControl
  | .lower => Text.isSmall c
  | .printable => !isControl
  | .punct => !isBlank && !isControl && !Text.isLetter c
  | .space => isBlank
  | .upper => Text.isCapital c
  | .hexDigit => false

/-- Whether an item of a set holds a character. -/
def itemHolds (item : SetItem) (c : Char) : Bool :=
  match item with
  | .named k => if c.toNat < 128 then k.holds c else classHolds k c
  | .range _ _ => item.holds c

/-- A token of an expression. -/
inductive Token
  | char (c : Char)
  | part (e : Expression)
  | bracket
  | star
  | plus
  | option
  | interval
  | bar
  | opening
  | closing
  | reference (n : Nat)
  | caret
  | dollar
  | lone
  deriving Repr

/-- What a character after a backslash means that is no operator. -/
def escaped (c : Char) : Token :=
  match c with
  | '<' => .part .wordStart
  | '>' => .part .wordEnd
  | 'b' => .part (.wordEdge false)
  | 'B' => .part (.wordEdge true)
  | 'w' => .part (.set false wordItems)
  | 'W' => .part (.set true wordItems)
  | 's' => .part (.set false [.named .space])
  | 'S' => .part (.set true [.named .space])
  | '\'' => .part .textEnd
  | c =>
    if c.toNat = 96 then .part .textStart
    else if c.isDigit && c != '0' then .reference (c.toNat - 48)
    else .char c

/-- The operator that a character means: after a backslash in the basic dialect, on its own in the
extended one. -/
def operator? (c : Char) : Option Token :=
  match c with
  | '+' => some .plus
  | '?' => some .option
  | '\x7b' => some .interval
  | '|' => some .bar
  | '(' => some .opening
  | ')' => some .closing
  | _ => none

/-- The first token of an expression and what follows it. -/
def token? (k : Dialect) : List Char → Option (Token × List Char)
  | [] => none
  | '\\' :: [] => some (.lone, [])
  | '\\' :: c :: rest =>
    match operator? c with
    | some op => some (if k.isExtended then .char c else op, rest)
    | none => some (escaped c, rest)
  | '.' :: rest => some (.part .any, rest)
  | '[' :: rest => some (.bracket, rest)
  | '*' :: rest => some (.star, rest)
  | '^' :: rest => some (.caret, rest)
  | '$' :: rest => some (.dollar, rest)
  | c :: rest =>
    match if k.isExtended then operator? c else none with
    | some op => some (op, rest)
    | none => some (.char c, rest)

/-! ### Brackets -/

/-- What stands up to a closing mark and a bracket, and what follows them. -/
def readNamed (mark : Char) : List Char → Option (List Char × List Char)
  | a :: b :: rest =>
    if a = mark && b = ']' then some ([], rest)
    else (readNamed mark (b :: rest)).map fun p => (a :: p.1, p.2)
  | _ => none

/-- Reads one end of a range, or a character on its own. -/
def readMember : List Char → Except ExpressionFlaw (Char × List Char)
  | '[' :: '.' :: rest =>
    match readNamed '.' rest with
    | some ([c], rest) => .ok (c, rest)
    | some _ => .error .badCollation
    | none => .error .openBracket
  | '[' :: ':' :: _ => .error .badRange
  | '[' :: '=' :: _ => .error .badRange
  | c :: rest => .ok (c, rest)
  | [] => .error .openBracket

/-- Reads the items of a set up to its closing bracket, which cannot be the first item. A hyphen that
makes no range stands first or last. Only plain characters have an order. -/
def readSet : Nat → (isFirst : Bool) → List Char →
    Except ExpressionFlaw (List SetItem × List Char)
  | 0, _, _ => .error .openBracket
  | fuel + 1, isFirst, cs =>
    let cons (item : SetItem) (rest : List Char) :
        Except ExpressionFlaw (List SetItem × List Char) :=
      (readSet fuel false rest).map fun p => (item :: p.1, p.2)
    match cs with
    | [] => .error .openBracket
    | '[' :: ':' :: rest =>
      match readNamed ':' rest with
      | some (name, rest) =>
        match CharClass.ofName? (String.ofList name) with
        | some c => cons (.named c) rest
        | none => .error .badClass
      | none => .error .openBracket
    | '[' :: '=' :: rest =>
      match readNamed '=' rest with
      | some ([c], rest) => cons (.single c) rest
      | some _ => .error .badCollation
      | none => .error .openBracket
    | c :: rest =>
      if c = ']' && !isFirst then .ok ([], rest)
      else if c = '-' && !isFirst && rest.head? != some ']' then .error .badRange
      else do
        let (first, rest) ← readMember (c :: rest)
        match rest with
        | '-' :: next :: more =>
          if next = ']' then cons (.single first) rest
          else do
            let (last, rest) ← readMember (next :: more)
            if 127 < first.toNat || 127 < last.toNat then throw .badCollation
            else if last < first then throw .badRange
            else cons (.range first last) rest
        | rest => cons (.single first) rest

/-- Reads a set after its opening bracket. -/
def readBracket (cs : List Char) : Except ExpressionFlaw (Expression × List Char) :=
  match cs with
  | [] => .error .bareBracket
  | ['^'] => .error .bareBracket
  | '^' :: rest => (readSet (rest.length + 1) true rest).map fun p => (.set true p.1, p.2)
  | cs => (readSet (cs.length + 1) true cs).map fun p => (.set false p.1, p.2)

/-! ### Repetition -/

/-- The most repetitions that can be asked for. -/
def mostRepetitions : Nat := 32767

/-- Reads a bound of a repetition, with the comma or the mark after it, and whether that was the mark
that closes the bounds. None if the expression ends first. -/
def readBound (k : Dialect) : List Char → Option (List Char × Bool × List Char)
  | [] => none
  | [c] => if k.isExtended && c = '\x7d' then some ([], true, []) else none
  | c :: d :: rest =>
    if c = ',' then some ([], false, d :: rest)
    else if k.isExtended && c = '\x7d' then some ([], true, d :: rest)
    else if !k.isExtended && c = '\\' && d = '\x7d' then some ([], true, rest)
    else (readBound k (d :: rest)).map fun p => (c :: p.1, p.2)

/-- The bounds of a repetition from their texts. The first one is needed if it is the only one. -/
def boundsOf (first : List Char) (second : Option (List Char)) :
    Except ExpressionFlaw (Nat × Option Nat) :=
  if !first.all Char.isDigit || !(second.getD []).all Char.isDigit then .error .oddInterval
  else
    let value (cs : List Char) : Option Nat := Text.natural? (String.ofList cs)
    let bounds : Option (Nat × Option Nat) :=
      match second with
      | none => (value first).map fun n => (n, some n)
      | some second => some ((value first).getD 0, value second)
    match bounds with
    | none => .error .oddInterval
    | some (least, most) =>
      if most.any (· < least) then .error .badInterval
      else if mostRepetitions < most.getD least then .error .tooBig
      else .ok (least, most)

/-- Reads the bounds of a repetition and the mark that closes them. -/
def readInterval (k : Dialect) (cs : List Char) :
    Except ExpressionFlaw ((Nat × Option Nat) × List Char) :=
  match readBound k cs with
  | none => .error .openInterval
  | some (first, true, rest) => (boundsOf first none).map fun bounds => (bounds, rest)
  | some (first, false, rest) =>
    match readBound k rest with
    | none => .error .openInterval
    | some (second, true, rest) => (boundsOf first (some second)).map fun bounds => (bounds, rest)
    | some (_, false, _) => .error .oddInterval

/-! ### Reading -/

/-- What has been read of an expression: its groups that are closed and the last number of any. -/
structure Numbering where
  last : Nat
  closed : List Nat

/-- Whether a place mark stands at some characters: at an end of the expression or of a part. -/
def atEnd (k : Dialect) (cs : List Char) : Bool :=
  match token? k cs with
  | none => true
  | some (.bar, _) => true
  | some (.closing, _) => true
  | _ => false

mutual

/-- Reads a choice up to the end of the expression or of its group. -/
def readChoice (k : Dialect) : Nat → (depth : Nat) → Numbering → List Char →
    Except ExpressionFlaw (Expression × Numbering × List Char)
  | 0, _, _, _ => .error .tooBig
  | fuel + 1, depth, n, cs => do
    let (first, n, rest) ← readSequence k fuel depth n true cs
    match token? k rest with
    | some (.bar, rest) =>
      let (second, n, rest) ← readChoice k fuel depth n rest
      return (.either first second, n, rest)
    | _ => return (first, n, rest)

/-- Reads parts that follow each other. -/
def readSequence (k : Dialect) : Nat → (depth : Nat) → Numbering → (isFirst : Bool) → List Char →
    Except ExpressionFlaw (Expression × Numbering × List Char)
  | 0, _, _, _, _ => .error .tooBig
  | fuel + 1, depth, n, isFirst, cs =>
    match token? k cs with
    | none => .ok (.empty, n, cs)
    | some (.bar, _) => .ok (.empty, n, cs)
    | some (.closing, rest) =>
      if depth = 0 then
        if k.isExtended && k.isLenient then do
          let (e, n, rest) ← readSequence k fuel depth n false rest
          return (.both (.char ')') e, n, rest)
        else .error .closedGroup
      else .ok (.empty, n, cs)
    | some (token, rest) => do
      let (part, n, rest, staysFirst) ← readPart k fuel depth n isFirst token rest
      let (part, rest) ← readRepeats k fuel staysFirst part rest
      let (e, n, rest) ← readSequence k fuel depth n staysFirst rest
      return (.both part e, n, rest)

/-- Reads a part that starts with a token. Also tells whether what follows still counts as the
start. -/
def readPart (k : Dialect) : Nat → (depth : Nat) → Numbering → (isFirst : Bool) → Token →
    List Char → Except ExpressionFlaw (Expression × Numbering × List Char × Bool)
  | 0, _, _, _, _, _ => .error .tooBig
  | fuel + 1, depth, n, isFirst, token, rest =>
    match token with
    | .char c => .ok (.char c, n, rest, false)
    | .part e => .ok (e, n, rest, false)
    | .bracket => (readBracket rest).map fun p => (p.1, n, p.2, false)
    | .caret =>
      if k.isExtended || isFirst then .ok (.lineStart, n, rest, true)
      else .ok (.char '^', n, rest, false)
    | .dollar =>
      if k.isExtended || atEnd k rest then .ok (.lineEnd, n, rest, false)
      else .ok (.char '$', n, rest, false)
    | .opening => do
      let number := n.last + 1
      let (e, n, rest) ← readChoice k fuel (depth + 1) ⟨number, n.closed⟩ rest
      match token? k rest with
      | some (.closing, rest) =>
        return (.group number e, ⟨n.last, number :: n.closed⟩, rest, false)
      | _ => throw .openGroup
    | .reference m =>
      if n.closed.contains m then .ok (.reference m, n, rest, false) else .error .badReference
    | .lone => .error .endingBackslash
    | .star =>
      if isFirst && k.isExtended && k.isLenient then .ok (.empty, n, rest, true)
      else if isFirst && !k.isExtended then .ok (.char '*', n, rest, false)
      else .error .nothingToRepeat
    | .plus =>
      if k.isExtended && k.isLenient then .ok (.empty, n, rest, true)
      else if k.isExtended then .error .nothingToRepeat else .ok (.char '+', n, rest, false)
    | .option =>
      if k.isExtended && k.isLenient then .ok (.empty, n, rest, true)
      else if k.isExtended then .error .nothingToRepeat else .ok (.char '?', n, rest, false)
    | .interval =>
      if !k.isLenient then .error .nothingToRepeat
      else
        match if k.isExtended then readInterval k rest else .error .oddInterval with
        | .ok (_, rest) => .ok (.empty, n, rest, true)
        | .error _ => .ok (.char '\x7b', n, rest, false)
    | .bar => .ok (.empty, n, rest, false)
    | .closing => .ok (.empty, n, rest, false)

/-- Reads the repetitions of a part. None can follow the start of a line in the basic dialect. -/
def readRepeats (k : Dialect) : Nat → (isFirst : Bool) → Expression → List Char →
    Except ExpressionFlaw (Expression × List Char)
  | 0, _, _, _ => .error .tooBig
  | fuel + 1, isFirst, part, cs =>
    if isFirst then .ok (part, cs)
    else
      match token? k cs with
      | some (.star, rest) => readRepeats k fuel false (.repetition part 0 none) rest
      | some (.plus, rest) => readRepeats k fuel false (.repetition part 1 none) rest
      | some (.option, rest) => readRepeats k fuel false (.repetition part 0 (some 1)) rest
      | some (.interval, rest) =>
        match readInterval k rest with
        | .ok ((least, most), rest) =>
          readRepeats k fuel false (.repetition part least most) rest
        | .error flaw =>
          if k.isExtended && k.isLenient && (flaw == .openInterval || flaw == .oddInterval) then
            .ok (.both part (.char '\x7b'), rest)
          else .error flaw
      | _ => .ok (part, cs)

end

/-- Reads an expression with the number of its groups. -/
def read (k : Dialect) (text : List Char) : Except ExpressionFlaw (Expression × Nat) :=
  (readChoice k (4 * text.length + 8) 0 ⟨0, []⟩ text).map fun p => (p.1, p.2.1.last)

/-- Whether an expression refers to a group. -/
def hasReference : Expression → Bool
  | .reference _ => true
  | .group _ e => e.hasReference
  | .both a b => a.hasReference || b.hasReference
  | .either a b => a.hasReference || b.hasReference
  | .repetition e _ _ => e.hasReference
  | _ => false

/-! ### Places -/

/-- A text to search, and how. -/
structure Subject where
  text : Array Char
  ignoresCase : Bool
  /-- Whether every line of the text has a start and an end. -/
  hasLines : Bool

namespace Subject

/-- The character at a place. -/
def at? (s : Subject) (i : Nat) : Option Char :=
  s.text[i]?

/-- The character before a place. -/
def before? (s : Subject) : Nat → Option Char
  | 0 => none
  | i + 1 => s.text[i]?

/-- Whether a word starts at a place. -/
def startsWord (s : Subject) (i : Nat) : Bool :=
  (s.at? i).any isWordChar && !(s.before? i).any isWordChar

/-- Whether a word ends at a place. -/
def endsWord (s : Subject) (i : Nat) : Bool :=
  (s.before? i).any isWordChar && !(s.at? i).any isWordChar

end Subject

/-- Whether an expression for a single character matches a character; none if it is no such
expression. An octet that is no character is matched only by itself. -/
def takes? (s : Subject) (e : Expression) (c : Char) : Option Bool :=
  let holds (test : Char → Bool) : Bool := test c || (s.ignoresCase && test (Text.otherCase c))
  match e with
  | .char d => some (holds (· == d))
  | .any => some (!Text.isStray c)
  | .set isNegated items =>
    some (!Text.isStray c && holds (fun c => items.any (itemHolds · c)) != isNegated)
  | _ => none

/-- Whether an expression matches nothing at a place; none if it can match more. -/
def stands? (s : Subject) (e : Expression) (i : Nat) : Option Bool :=
  match e with
  | .empty => some true
  | .lineStart => some (i == 0 || (s.hasLines && s.before? i == some '\n'))
  | .lineEnd => some (i == s.text.size || (s.hasLines && s.at? i == some '\n'))
  | .textStart => some (i == 0)
  | .textEnd => some (i == s.text.size)
  | .wordStart => some (s.startsWord i)
  | .wordEnd => some (s.endsWord i)
  | .wordEdge isNegated => some ((s.startsWord i || s.endsWord i) != isNegated)
  | _ => none

/-! ### Ends of matches -/

/-- Two ascending lists of places as one. -/
def merge : List Nat → List Nat → List Nat
  | [], js => js
  | is, [] => is
  | i :: is, j :: js =>
    if i < j then i :: merge is (j :: js)
    else if j < i then j :: merge (i :: is) js
    else i :: merge is js

/-- The places that can be reached from some places by going over characters one by one. -/
def run (goesOver : Nat → Bool) : (fuel : Nat) → (at? : Option Nat) → List Nat → List Nat
  | 0, _, _ => []
  | fuel + 1, none, is =>
    match is with
    | [] => []
    | i :: is => run goesOver fuel (some i) is
  | fuel + 1, some i, is =>
    i :: run goesOver fuel (if goesOver i then some (i + 1) else none) (is.dropWhile (· ≤ i))

/-- Repeats a step on places a number of times. -/
def times (step : List Nat → List Nat) : Nat → List Nat → List Nat
  | 0, is => is
  | n + 1, is => if is.isEmpty then [] else times step n (step is)

/-- Repeats a step on places as long as new ones come up. -/
def close (step : List Nat → List Nat) : (fuel : Nat) → (front done : List Nat) → List Nat
  | 0, _, done => done
  | fuel + 1, front, done =>
    let new := (step front).filter fun i => !done.contains i
    if new.isEmpty then done else close step fuel new (merge done new)

/-- The ends of the matches from some ascending places, in ascending order. -/
def ends (s : Subject) : Expression → List Nat → List Nat
  | .group _ e, is => ends s e is
  | .both a b, is => if is.isEmpty then [] else ends s b (ends s a is)
  | .either a b, is => merge (ends s a is) (ends s b is)
  | .repetition e least most, is =>
    let start := times (ends s e) least is
    let goesOver (i : Nat) : Bool := (s.at? i).any fun c => (takes? s e c).getD false
    match most with
    | none =>
      if (takes? s e 'a').isSome then
        run goesOver (2 * s.text.size + 2 * start.length + 2) none start
      else close (ends s e) (s.text.size + 1) start start
    | some most => close (ends s e) (most - least) start start
  | e, is =>
    is.filterMap fun i =>
      match stands? s e i with
      | some holds => if holds then some i else none
      | none => if (s.at? i).any fun c => (takes? s e c).getD false then some (i + 1) else none

/-! ### Groups -/

/-- What groups have matched, from a place to a place, by their numbers. -/
abbrev Groups := List (Nat × Nat × Nat)

/-- Whether the same characters stand at two places. -/
def sameAt (s : Subject) (i j : Nat) : Nat → Bool
  | 0 => true
  | n + 1 =>
    let same :=
      match s.at? (i + n), s.at? (j + n) with
      | some a, some b => a == b || (s.ignoresCase && Text.otherCase a == b)
      | _, _ => false
    same && sameAt s i j n

/-- Walks over repetitions of a part, more of them first, and then goes on. -/
def walkRepeats (walk : Nat → Groups → (Nat → Groups → Option Groups) → Option Groups) :
    (fuel : Nat) → (least : Nat) → (most : Option Nat) → Nat → Groups →
    (Nat → Groups → Option Groups) → Option Groups
  | 0, _, _, i, groups, goOn => goOn i groups
  | fuel + 1, least, most, i, groups, goOn =>
    let more :=
      if most = some 0 then none
      else
        walk i groups fun j groups =>
          if j = i && least = 0 then none
          else walkRepeats walk fuel (least - 1) (most.map (· - 1)) j groups goOn
    match more with
    | some groups => some groups
    | none => if least = 0 then goOn i groups else none

/-- Walks over a match from a place and then goes on. -/
def walk (s : Subject) : Expression → Nat → Groups → (Nat → Groups → Option Groups) →
    Option Groups
  | .group number e, i, groups, goOn =>
    walk s e i groups fun j groups =>
      goOn j ((number, i, j) :: groups.filter fun g => g.1 != number)
  | .reference number, i, groups, goOn =>
    match groups.lookup number with
    | some (first, last) =>
      if sameAt s first i (last - first) then goOn (i + (last - first)) groups else none
    | none => none
  | .both a b, i, groups, goOn => walk s a i groups fun j groups => walk s b j groups goOn
  | .either a b, i, groups, goOn =>
    match walk s a i groups goOn with
    | some groups => some groups
    | none => walk s b i groups goOn
  | .repetition e least most, i, groups, goOn =>
    walkRepeats (walk s e) (s.text.size + least + 1) least most i groups goOn
  | e, i, groups, goOn =>
    match stands? s e i with
    | some holds => if holds then goOn i groups else none
    | none =>
      if (s.at? i).any fun c => (takes? s e c).getD false then goOn (i + 1) groups else none

/-! ### Matches -/

/-- A match: where it starts and ends, and what its groups have matched. -/
structure Match where
  first : Nat
  last : Nat
  groups : Groups
  deriving Repr

/-- The groups of a match from a place to a place, if there is one. -/
def groupsOf? (s : Subject) (e : Expression) (i j : Nat) : Option Groups :=
  walk s e i [] fun k groups => if k = j then some groups else none

/-- The ends of the matches from a place, the last one first. -/
def lastEnds (s : Subject) (e : Expression) (i : Nat) : List Nat :=
  if e.hasReference then
    ((List.range (s.text.size + 1 - i)).reverse.map (i + ·)).filter fun j =>
      (groupsOf? s e i j).isSome
  else (ends s e [i]).reverse

/-- The first match at or after a place whose start and end satisfy a condition, the longest one at
its start. `fuel` bounds how many places are tried. -/
def findWhere (s : Subject) (e : Expression) (fits : Nat → Nat → Bool) :
    (fuel : Nat) → Nat → Option Match
  | 0, _ => none
  | fuel + 1, i =>
    match (lastEnds s e i).find? (fits i) with
    | some j => some ⟨i, j, (groupsOf? s e i j).getD []⟩
    | none => findWhere s e fits fuel (i + 1)

/-- The first match at or after a place. -/
def find? (s : Subject) (e : Expression) (i : Nat) : Option Match :=
  findWhere s e (fun _ _ => true) (s.text.size + 1 - i) i

/-- Some characters of a text. -/
def slice (s : Subject) (i j : Nat) : List Char :=
  (s.text.extract i j).toList

/-- What a group of a match has matched. -/
def Match.group (s : Subject) (m : Match) (number : Nat) : List Char :=
  if number = 0 then slice s m.first m.last
  else
    match m.groups.lookup number with
    | some (i, j) => slice s i j
    | none => []

end Expression

end SnippetForge.Shell
