import SnippetForge.Shell.Expression
import SnippetForge.Text.Hex

/-!
# Expressions tried in order

A dialect of regular expressions in which the order of what is tried decides, not the length of what
is matched: an earlier choice wins, and a repetition goes on as long as it can, or as short as it
can. It also looks ahead and back without taking anything, names groups and sets its manners on the
way. Its classes hold plain characters only; properties hold characters of all scripts.

A match is found by a walk that has a rest to go on with. The walk gives back the first way through.
-/

namespace SnippetForge.Shell

/-- A kind of characters. -/
inductive CharKind
  | digit
  | wordChar
  | space
  /-- Blanks within a line. -/
  | across
  /-- Breaks between lines. -/
  | down
  | named (k : CharClass)
  | letter
  | capital
  | small
  | anything
  deriving DecidableEq, Repr

/-- Whether a kind holds a character. -/
def CharKind.holds (k : CharKind) (c : Char) : Bool :=
  let n := c.toNat
  match k with
  | .digit => c.isDigit
  | .wordChar => c.isAlphanum || c == '_'
  | .space => CharClass.space.holds c
  | .across => n == 9 || n == 32 || n == 0x180E || (Text.isBlank c && n != 0x85 && 0x9F < n
      && n != 0x2028 && n != 0x2029)
  | .down => (9 < n && n < 14) || n == 0x85 || n == 0x2028 || n == 0x2029
  | .named k => k.holds c
  | .letter => Text.isLetter c && !c.isDigit
  | .capital => if n < 128 then c.isUpper else Text.isCapital c
  | .small => if n < 128 then c.isLower else Text.isSmall c
  | .anything => true

/-- An item of a set. -/
inductive OrderedItem
  | range (first last : Char)
  | kind (isNegated : Bool) (k : CharKind)
  deriving DecidableEq, Repr

/-- Whether an item holds a character. -/
def OrderedItem.holds (c : Char) : OrderedItem → Bool
  | .range first last => first ≤ c && c ≤ last
  | .kind isNegated k => k.holds c != isNegated

/-- A place that is asked for. -/
inductive PlaceKind
  | lineStart (hasLines : Bool)
  | lineEnd (hasLines : Bool)
  | textStart
  | textEnd
  /-- The end of the text or the line end before it. -/
  | lastEnd
  | wordEdge (isNegated : Bool)
  deriving DecidableEq, Repr

/-- Whether a place is of a kind. -/
def PlaceKind.stands (k : PlaceKind) (text : Array Char) (i : Nat) : Bool :=
  let isWord (c : Option Char) : Bool := c.any CharKind.wordChar.holds
  let before : Option Char := if i = 0 then none else text[i - 1]?
  let isLast := i == text.size || (i + 1 == text.size && text[i]? == some '\n')
  match k with
  | .lineStart hasLines => i == 0 || (hasLines && before == some '\n')
  | .lineEnd hasLines => isLast || (hasLines && text[i]? == some '\n')
  | .textStart => i == 0
  | .textEnd => i == text.size
  | .lastEnd => isLast
  | .wordEdge isNegated => (isWord before != isWord text[i]?) != isNegated

/-- How a repetition goes on. -/
inductive Greed
  | longest
  | shortest
  /-- As long as it can, without trying less. -/
  | unyielding
  deriving DecidableEq, Repr

/-- An expression that is tried in order. -/
inductive Ordered
  | empty
  | one (ignoresCase isNegated : Bool) (items : List OrderedItem)
  | place (k : PlaceKind)
  /-- Takes back what was matched before. -/
  | fresh
  | group (number : Nat) (inner : Ordered)
  | reference (ignoresCase : Bool) (number : Nat)
  | both (first second : Ordered)
  | either (first second : Ordered)
  | repetition (inner : Ordered) (least : Nat) (most : Option Nat) (greed : Greed)
  /-- The first way through a part; no other one is tried. -/
  | settled (inner : Ordered)
  /-- What stands ahead or behind. -/
  | look (isBehind isNegated : Bool) (inner : Ordered)
  deriving Repr

/-- Why a text is no such expression. -/
inductive OrderedFlaw
  | endingBackslash
  | endingControl
  | unknownEscape
  | boundsOrder
  | tooMany
  | openSet
  | setEscape
  | setOrder
  | setRange
  | setAny
  | nothingToRepeat
  | unknownMark
  | looseClass
  | collation
  | openGroup
  | closedGroup
  | openComment
  | unknownGroup
  | unevenBehind
  | unknownClass
  | unknownProperty
  | badProperty
  | tooLarge
  | badHex
  | noHex
  | nameEnd
  | noName
  | nameDigit
  | nameTwice
  | bareName
  | bareNumber
  | unsupported
  deriving DecidableEq, Repr

/-- The words for a flaw. -/
def OrderedFlaw.words : OrderedFlaw → String
  | .endingBackslash => "\\ at end of pattern"
  | .endingControl => "\\c at end of pattern"
  | .unknownEscape => "unrecognized character follows \\"
  | .boundsOrder => "numbers out of order in \x7b\x7d quantifier"
  | .tooMany => "number too big in \x7b\x7d quantifier"
  | .openSet => "missing terminating ] for character class"
  | .setEscape => "escape sequence is invalid in character class"
  | .setOrder => "range out of order in character class"
  | .setRange => "invalid range in character class"
  | .setAny => "\\N is not supported in a class"
  | .nothingToRepeat => "quantifier does not follow a repeatable item"
  | .unknownMark => "unrecognized character after (? or (?-"
  | .looseClass => "POSIX named classes are supported only within a class"
  | .collation => "POSIX collating elements are not supported"
  | .openGroup => "missing closing parenthesis"
  | .closedGroup => "unmatched closing parenthesis"
  | .openComment => "missing ) after (?# comment"
  | .unknownGroup => "reference to non-existent subpattern"
  | .unevenBehind => "lookbehind assertion is not fixed length"
  | .unknownClass => "unknown POSIX class name"
  | .unknownProperty => "unknown property after \\P or \\p"
  | .badProperty => "malformed \\P or \\p sequence"
  | .tooLarge => "character code point value in \\x\x7b\x7d or \\o\x7b\x7d is too large"
  | .badHex => "non-hex character in \\x\x7b\x7d (closing brace missing?)"
  | .noHex => "digits missing in \\x\x7b\x7d or \\o\x7b\x7d or \\N\x7bU+\x7d"
  | .nameEnd => "syntax error in subpattern name (missing terminator?)"
  | .noName => "subpattern name expected"
  | .nameDigit => "subpattern name must start with a non-digit"
  | .nameTwice => "two named subpatterns have the same name (PCRE2_DUPNAMES not set)"
  | .bareName => "\\k is not followed by a braced, angle-bracketed, or quoted name"
  | .bareNumber =>
    "\\g is not followed by a braced, angle-bracketed, or quoted name/number or by a plain number"
  | .unsupported =>
    "PCRE2 does not support \\F, \\L, \\l, \\N\x7bname\x7d, \\U, or \\u"

namespace Ordered

/-! ### Manners -/

/-- The manners in which an expression is read, which it can set itself. -/
structure Manners where
  ignoresCase : Bool
  /-- Whether a point also holds line ends. -/
  spansLines : Bool
  /-- Whether blanks and comments between parts are left out. -/
  skipsBlanks : Bool
  /-- Whether every line has a start and an end. -/
  hasLines : Bool
  /-- Whether repetitions are short unless they are marked. -/
  isSwapped : Bool
  /-- Whether only groups with names are kept. -/
  keepsNamed : Bool
  deriving DecidableEq, Repr

/-- The manners of an expression that sets none. -/
def Manners.plain (ignoresCase : Bool) : Manners :=
  ⟨ignoresCase, false, false, false, false, false⟩

/-- Sets a manner by its letter; none if there is no such letter. -/
def Manners.set? (m : Manners) (on : Bool) : Char → Option Manners
  | 'i' => some { m with ignoresCase := on }
  | 's' => some { m with spansLines := on }
  | 'x' => some { m with skipsBlanks := on }
  | 'm' => some { m with hasLines := on }
  | 'U' => some { m with isSwapped := on }
  | 'n' => some { m with keepsNamed := on }
  | 'J' => some m
  | _ => none

/-- What is known of an expression as far as it has been read. -/
structure Reading where
  /-- How many groups have been opened. -/
  count : Nat
  names : List (String × Nat)
  manners : Manners
  /-- The largest group that has been referred to. -/
  largest : Nat

/-- One character. -/
def char (r : Reading) (c : Char) : Ordered :=
  .one r.manners.ignoresCase false [.range c c]

/-- Any character of some kind. -/
def ofKind (isNegated : Bool) (k : CharKind) : Ordered :=
  .one false false [.kind isNegated k]

/-- A line break. -/
def lineBreak : Ordered :=
  .settled (.either
    (.both (.one false false [.range '\r' '\r']) (.one false false [.range '\n' '\n']))
    (ofKind false .down))

/-! ### Escapes -/

/-- What a backslash and what follows it mean. -/
inductive Escape
  | char (c : Char)
  | kind (isNegated : Bool) (k : CharKind)
  | part (e : Ordered)
  | backreference (number : Nat)
  | named (name : String)
  /-- Something that has no meaning in sets. -/
  | any

/-- The kinds that letters stand for. -/
def kindLetters : List (Char × Bool × CharKind) :=
  [('d', false, .digit), ('D', true, .digit), ('w', false, .wordChar), ('W', true, .wordChar),
    ('s', false, .space), ('S', true, .space), ('h', false, .across), ('H', true, .across),
    ('v', false, .down), ('V', true, .down)]

/-- The parts that letters stand for. -/
def partLetters : List (Char × Ordered) :=
  [('b', .place (.wordEdge false)), ('B', .place (.wordEdge true)), ('A', .place .textStart),
    ('z', .place .textEnd), ('Z', .place .lastEnd), ('G', .place .textStart), ('K', .fresh),
    ('R', lineBreak), ('X', .one false false [.kind false .anything])]

/-- The characters that letters stand for. -/
def charLetters : List (Char × Nat) :=
  [('a', 7), ('e', 27), ('f', 12), ('n', 10), ('r', 13), ('t', 9)]

/-- The kinds of properties. -/
def properties : List (String × CharKind) :=
  [("l", .letter), ("lu", .capital), ("ll", .small), ("n", .digit), ("nd", .digit),
    ("p", .named .punct), ("z", .across), ("zs", .across), ("any", .anything)]

/-- A property by its name. -/
def property (isNegated : Bool) (name : List Char) : Except OrderedFlaw Escape :=
  let (isTurned, name) : Bool × List Char :=
    match name with
    | '^' :: name => (true, name)
    | name => (false, name)
  let plain := (name.filter fun c => c != ' ' && c != '_' && c != '-').map Char.toLower
  match properties.lookup (String.ofList plain) with
  | some k => .ok (.kind (isNegated != isTurned) k)
  | none => .error .unknownProperty

/-- What stands up to a closing mark, and what follows it. -/
def upTo (close : Char) (cs : List Char) : Option (List Char × List Char) :=
  let inside := cs.takeWhile (· != close)
  match cs.drop inside.length with
  | _ :: rest => some (inside, rest)
  | [] => none

/-- The character of a number, or a flaw. -/
def charOf (n : Nat) : Except OrderedFlaw Escape :=
  if Text.strayBase ≤ n && n < 0x110000 then .ok (.char (Char.ofNat 0xFFFD))
  else if n < 0x110000 then .ok (.char (Char.ofNat n))
  else .error .tooLarge

/-- The number that digits of some base stand for. -/
def valueIn (base : Nat) (digits : List Char) : Nat :=
  digits.foldl (fun n c => n * base + (Text.hexValue? c).getD 0) 0

/-- Reads a number in braces. -/
def readBraced (base : Nat) (cs : List Char) : Except OrderedFlaw (Escape × List Char) :=
  match upTo '\x7d' cs with
  | none => .error .badHex
  | some ([], _) => .error .noHex
  | some (digits, rest) =>
    if digits.all fun c => (Text.hexValue? c).any (· < base) then
      (charOf (valueIn base digits)).map fun e => (e, rest)
    else .error .badHex

/-- Reads a name up to a closing mark. -/
def readName (close : Char) (cs : List Char) : Except OrderedFlaw (String × List Char) :=
  let name := cs.takeWhile fun c => c.isAlphanum || c == '_'
  match name, cs.drop name.length with
  | [], _ => .error .noName
  | c :: _, rest =>
    if c.isDigit then .error .nameDigit
    else if rest.head? = some close then .ok (String.ofList name, rest.drop 1)
    else .error .nameEnd

/-- The marks that may stand around names. -/
def nameMarks : List (Char × Char) :=
  [('<', '>'), ('\'', '\''), ('\x7b', '\x7d')]

/-- Reads what stands after a backslash. `groups` is how many groups there are so far. -/
def readEscape (groups : Nat) : List Char → Except OrderedFlaw (Escape × List Char)
  | [] => .error .endingBackslash
  | c :: rest =>
    match kindLetters.lookup c, partLetters.lookup c, charLetters.lookup c with
    | some (isNegated, k), _, _ => .ok (.kind isNegated k, rest)
    | _, some part, _ => .ok (.part part, rest)
    | _, _, some n => .ok (.char (Char.ofNat n), rest)
    | none, none, none =>
      let negative := c == 'P'
      match c, rest with
      | 'x', '\x7b' :: rest => readBraced 16 rest
      | 'o', '\x7b' :: rest => readBraced 8 rest
      | 'x', rest =>
        let digits := (rest.take 2).takeWhile fun d => (Text.hexValue? d).isSome
        (charOf (valueIn 16 digits)).map fun e => (e, rest.drop digits.length)
      | 'c', [] => .error .endingControl
      | 'c', d :: rest =>
        let n := d.toUpper.toNat
        .ok (.char (Char.ofNat (if n < 64 then n + 64 else n - 64)), rest)
      | 'N', '\x7b' :: 'U' :: '+' :: rest => readBraced 16 rest
      | 'N', '\x7b' :: _ => .error .unsupported
      | 'N', rest => .ok (.any, rest)
      | 'k', open' :: rest =>
        match nameMarks.lookup open' with
        | some close => (readName close rest).map fun p => (.named p.1, p.2)
        | none => .error .bareName
      | 'k', [] => .error .bareName
      | 'g', '\x7b' :: rest =>
        let inside := rest.takeWhile (· != '\x7d')
        match inside with
        | [] => .error .noName
        | '-' :: digits =>
          match Text.natural? (String.ofList digits) with
          | some n =>
            if 0 < n && n ≤ groups then
              .ok (.backreference (groups + 1 - n), rest.drop (inside.length + 1))
            else .error .unknownGroup
          | none => .error .bareNumber
        | digits =>
          match Text.natural? (String.ofList digits) with
          | some n => .ok (.backreference n, rest.drop (inside.length + 1))
          | none => (readName '\x7d' rest).map fun p => (.named p.1, p.2)
      | 'g', rest =>
        let digits := rest.takeWhile Char.isDigit
        match Text.natural? (String.ofList digits) with
        | some n => .ok (.backreference n, rest.drop digits.length)
        | none => .error .bareNumber
      | _, _ =>
        if c = 'p' || negative then
          match rest with
          | '\x7b' :: rest =>
            match upTo '\x7d' rest with
            | some (name, rest) => (property negative name).map fun e => (e, rest)
            | none => .error .badProperty
          | d :: rest => (property negative [d]).map fun e => (e, rest)
          | [] => .error .badProperty
        else if "FLlUu".toList.contains c then .error .unsupported
        else if c.isDigit then
          let digits := c :: rest.takeWhile Char.isDigit
          let n := (Text.natural? (String.ofList digits)).getD 0
          if c != '0' && (n < 10 || n ≤ groups) then
            .ok (.backreference n, rest.drop (digits.length - 1))
          else
            let octal := ((c :: rest).take 3).takeWhile fun d => '0' ≤ d && d < '8'
            (charOf (valueIn 8 octal)).map fun e =>
              (e, (c :: rest).drop (max 1 octal.length))
        else if c.isAlpha then .error .unknownEscape
        else .ok (.char c, rest)

/-! ### Sets -/

/-- What one member of a set is. -/
def readMember (cs : List Char) : Except OrderedFlaw (OrderedItem × List Char) :=
  match cs with
  | [] => .error .openSet
  | '\\' :: 'b' :: rest => .ok (.range '\x08' '\x08', rest)
  | '\\' :: rest =>
    match readEscape 0 rest with
    | .ok (.char c, rest) => .ok (.range c c, rest)
    | .ok (.kind isNegated k, rest) => .ok (.kind isNegated k, rest)
    | .ok (.any, _) => .error .setAny
    | .ok (.backreference _, _) =>
      let octal := (rest.take 3).takeWhile fun d => '0' ≤ d && d < '8'
      let c := if octal.isEmpty then rest.headD '8' else Char.ofNat (valueIn 8 octal)
      .ok (.range c c, rest.drop (max 1 octal.length))
    | .ok _ => .error .setEscape
    | .error .endingBackslash => .error .endingBackslash
    | .error flaw => .error flaw
  | '[' :: ':' :: rest =>
    match Expression.readNamed ':' rest with
    | none => .ok (.range '[' '[', ':' :: rest)
    | some (name, rest) =>
      let (isNegated, name) : Bool × List Char :=
        match name with
        | '^' :: name => (true, name)
        | name => (false, name)
      match String.ofList name, CharClass.ofName? (String.ofList name) with
      | "word", _ => .ok (.kind isNegated .wordChar, rest)
      | _, some k => .ok (.kind isNegated (.named k), rest)
      | _, none => .error .unknownClass
  | '[' :: mark :: rest =>
    if (mark = '.' || mark = '=') && (Expression.readNamed mark rest).isSome then .error .collation
    else .ok (.range '[' '[', mark :: rest)
  | c :: rest => .ok (.range c c, rest)

/-- Reads the items of a set up to its closing bracket. -/
def readSet : Nat → (isFirst : Bool) → List Char →
    Except OrderedFlaw (List OrderedItem × List Char)
  | 0, _, _ => .error .openSet
  | fuel + 1, isFirst, cs =>
    match cs with
    | [] => .error .openSet
    | c :: rest =>
      if c = ']' && !isFirst then .ok ([], rest)
      else do
        let (item, rest) ← readMember (c :: rest)
        match rest with
        | '-' :: next :: more =>
          if next = ']' then (readSet fuel false rest).map fun p => (item :: p.1, p.2)
          else do
            let (last, rest) ← readMember (next :: more)
            match item, last with
            | .range first _, .range last _ =>
              if last < first then throw .setOrder
              else (readSet fuel false rest).map fun p => (.range first last :: p.1, p.2)
            | _, _ => throw .setRange
        | rest => (readSet fuel false rest).map fun p => (item :: p.1, p.2)

/-- Whether a set stands at some characters that should stand in another set. -/
def isLooseClass (cs : List Char) : Bool :=
  match cs with
  | ':' :: rest =>
    match Expression.readNamed ':' rest with
    | some (name, _) => name.all fun c => c.isAlpha || c == '^'
    | none => false
  | _ => false

/-- Reads a set after its opening bracket. -/
def readBracket (r : Reading) (cs : List Char) : Except OrderedFlaw (Ordered × List Char) :=
  if isLooseClass cs then .error .looseClass
  else
    let (isNegated, cs) : Bool × List Char :=
      match cs with
      | '^' :: cs => (true, cs)
      | cs => (false, cs)
    (readSet (cs.length + 1) true cs).map fun p =>
      (.one r.manners.ignoresCase isNegated p.1, p.2)

/-! ### Repetition -/

/-- The most repetitions that can be asked for. -/
def mostRepetitions : Nat := 65535

/-- Reads bounds in braces; none if what stands there is no such thing. -/
def bounds? (cs : List Char) : Option ((Nat × Option Nat) × List Char) :=
  let first := cs.takeWhile Char.isDigit
  match Text.natural? (String.ofList first), cs.drop first.length with
  | some n, '\x7d' :: rest => some ((n, some n), rest)
  | some n, ',' :: '\x7d' :: rest => some ((n, none), rest)
  | some n, ',' :: rest =>
    let second := rest.takeWhile Char.isDigit
    match Text.natural? (String.ofList second), rest.drop second.length with
    | some m, '\x7d' :: rest => some ((n, some m), rest)
    | _, _ => none
  | _, _ => none

/-- Reads how often a part is repeated; none if it stands alone. -/
def readBounds : List Char → Except OrderedFlaw (Option ((Nat × Option Nat) × List Char))
  | '*' :: rest => .ok (some ((0, none), rest))
  | '+' :: rest => .ok (some ((1, none), rest))
  | '?' :: rest => .ok (some ((0, some 1), rest))
  | '\x7b' :: rest =>
    match bounds? rest with
    | some ((least, most), rest) =>
      if mostRepetitions < least || most.any (mostRepetitions < ·) then .error .tooMany
      else if most.any (· < least) then .error .boundsOrder
      else .ok (some ((least, most), rest))
    | none => .ok none
  | _ => .ok none

/-- Reads the repetition after a part. -/
def readRepeat (r : Reading) (part : Ordered) (cs : List Char) :
    Except OrderedFlaw (Ordered × List Char) :=
  (readBounds cs).map fun found =>
    match found with
    | none => (part, cs)
    | some ((least, most), rest) =>
      let greed (isSwapped : Bool) : Greed :=
        if r.manners.isSwapped != isSwapped then .shortest else .longest
      match rest with
      | '+' :: rest => (.repetition part least most .unyielding, rest)
      | '?' :: rest => (.repetition part least most (greed true), rest)
      | rest => (.repetition part least most (greed false), rest)

/-! ### Looking behind -/

/-- How many characters an expression takes, if that is always the same. -/
def width? : Ordered → Option Nat
  | .empty => some 0
  | .one _ _ _ => some 1
  | .place _ => some 0
  | .fresh => some 0
  | .group _ e => e.width?
  | .reference _ _ => none
  | .both a b =>
    match a.width?, b.width? with
    | some m, some n => some (m + n)
    | _, _ => none
  | .either a b =>
    match a.width?, b.width? with
    | some m, some n => if m = n then some m else none
    | _, _ => none
  | .repetition e least most _ =>
    match e.width?, most with
    | some n, some most => if least = most then some (n * most) else none
    | _, _ => none
  | .settled e => e.width?
  | .look _ _ _ => some 0

/-- Whether each choice of an expression always takes the same number of characters. -/
def isEven : Ordered → Bool
  | .either a b => a.isEven && b.isEven
  | e => e.width?.isSome

/-! ### Reading -/

/-- Characters without comments and blanks at their start. `fuel` bounds how many. -/
def skipBlanks : (fuel : Nat) → List Char → List Char
  | 0, cs => cs
  | fuel + 1, cs =>
    match cs with
    | c :: rest =>
      if CharClass.space.holds c then skipBlanks fuel rest
      else if c = '#' then skipBlanks fuel ((rest.dropWhile (· != '\n')).drop 1)
      else cs
    | [] => []

/-- The characters that go on, without blanks if those are left out. -/
def next (r : Reading) (cs : List Char) : List Char :=
  if r.manners.skipsBlanks then skipBlanks (cs.length + 1) cs else cs

/-- Reads letters for manners up to the end of a group's opening. Gives the manners and what follows
them, and whether a group follows. -/
def readManners (m : Manners) : (on : Bool) → List Char →
    Except OrderedFlaw (Manners × Bool × List Char)
  | _, [] => .error .openGroup
  | on, c :: rest =>
    if c = ')' then .ok (m, false, rest)
    else if c = ':' then .ok (m, true, rest)
    else if c = '-' && on then readManners m false rest
    else
      match m.set? on c with
      | some m => readManners m on rest
      | none => .error .unknownMark

/-- How a group opens. -/
inductive Opening
  | kept (name : Option String)
  | plain
  | settled
  | look (isBehind isNegated : Bool)
  | manners (m : Manners) (isGroup : Bool)
  | reference (name : String)
  | nothing

/-- Reads how a group opens, after its parenthesis. -/
def readOpening (r : Reading) : List Char → Except OrderedFlaw (Opening × List Char)
  | '*' :: _ => .error .nothingToRepeat
  | '?' :: '#' :: rest =>
    match upTo ')' rest with
    | some (_, rest) => .ok (.nothing, rest)
    | none => .error .openComment
  | '?' :: ':' :: rest => .ok (.plain, rest)
  | '?' :: '|' :: rest => .ok (.plain, rest)
  | '?' :: '>' :: rest => .ok (.settled, rest)
  | '?' :: '=' :: rest => .ok (.look false false, rest)
  | '?' :: '!' :: rest => .ok (.look false true, rest)
  | '?' :: '<' :: '=' :: rest => .ok (.look true false, rest)
  | '?' :: '<' :: '!' :: rest => .ok (.look true true, rest)
  | '?' :: '<' :: rest => (readName '>' rest).map fun p => (.kept (some p.1), p.2)
  | '?' :: '\'' :: rest => (readName '\'' rest).map fun p => (.kept (some p.1), p.2)
  | '?' :: 'P' :: '<' :: rest => (readName '>' rest).map fun p => (.kept (some p.1), p.2)
  | ['?', 'P'] => .error .openGroup
  | '?' :: 'P' :: '=' :: rest => (readName ')' rest).map fun p => (.reference p.1, p.2)
  | '?' :: '^' :: rest =>
    (readManners (.plain false) true rest).map fun p => (.manners p.1 p.2.1, p.2.2)
  | '?' :: rest => (readManners r.manners true rest).map fun p => (.manners p.1 p.2.1, p.2.2)
  | rest => if r.manners.keepsNamed then .ok (.plain, rest) else .ok (.kept none, rest)

/-- What follows the parenthesis that closes a group. -/
def closeGroup : List Char → Except OrderedFlaw (List Char)
  | ')' :: rest => .ok rest
  | _ => .error .openGroup

/-- A reference to a group by its name. -/
def namedReference (r : Reading) (name : String) : Except OrderedFlaw Ordered :=
  match r.names.lookup name with
  | some n => .ok (.reference r.manners.ignoresCase n)
  | none => .error .unknownGroup

/-- What an escape means outside sets, and whether it can be repeated. -/
def escapedPart (r : Reading) (e : Escape) : Except OrderedFlaw (Ordered × Bool × Reading) :=
  match e with
  | .char c => .ok (char r c, true, r)
  | .kind isNegated k => .ok (ofKind isNegated k, true, r)
  | .part (.place k) => .ok (.place k, false, r)
  | .part .fresh => .ok (.fresh, false, r)
  | .part e => .ok (e, true, r)
  | .backreference n =>
    .ok (.reference r.manners.ignoresCase n, true, { r with largest := max r.largest n })
  | .named name => (namedReference r name).map fun e => (e, true, r)
  | .any => .ok (.one false true [.range '\n' '\n'], true, r)

mutual

/-- Reads a choice up to the end of the expression or of its group. -/
def readChoice : Nat → (depth : Nat) → Reading → List Char →
    Except OrderedFlaw (Ordered × Reading × List Char)
  | 0, _, _, _ => .error .openGroup
  | fuel + 1, depth, r, cs => do
    let (first, r, rest) ← readSequence fuel depth r cs
    match rest with
    | '|' :: rest =>
      let (second, r, rest) ← readChoice fuel depth r rest
      return (.either first second, r, rest)
    | rest => return (first, r, rest)

/-- Reads parts that follow each other. -/
def readSequence : Nat → (depth : Nat) → Reading → List Char →
    Except OrderedFlaw (Ordered × Reading × List Char)
  | 0, _, _, _ => .error .openGroup
  | fuel + 1, depth, r, cs =>
    match next r cs with
    | [] => .ok (.empty, r, [])
    | '|' :: rest => .ok (.empty, r, '|' :: rest)
    | ')' :: rest => if depth = 0 then .error .closedGroup else .ok (.empty, r, ')' :: rest)
    | c :: rest => do
      let (part, isRepeatable, r, rest) ← readPart fuel depth r c rest
      let rest := next r rest
      let (part, rest) ←
        if isRepeatable then readRepeat r part rest
        else if (← readBounds rest).isSome then throw .nothingToRepeat
        else pure (part, rest)
      if isRepeatable && (← readBounds rest).isSome then throw .nothingToRepeat
      else
        let (e, r, rest) ← readSequence fuel depth r rest
        return (.both part e, r, rest)

/-- Reads a part that starts with a character. Also tells whether it can be repeated. -/
def readPart : Nat → (depth : Nat) → Reading → Char → List Char →
    Except OrderedFlaw (Ordered × Bool × Reading × List Char)
  | 0, _, _, _, _ => .error .openGroup
  | fuel + 1, depth, r, c, rest =>
    match c with
    | '.' =>
      let e := if r.manners.spansLines then ofKind false .anything
        else .one false true [.range '\n' '\n']
      .ok (e, true, r, rest)
    | '^' => .ok (.place (.lineStart r.manners.hasLines), false, r, rest)
    | '$' => .ok (.place (.lineEnd r.manners.hasLines), false, r, rest)
    | '[' => (readBracket r rest).map fun p => (p.1, true, r, p.2)
    | '\\' => do
      let (e, rest) ← readEscape r.count rest
      let (e, isRepeatable, r) ← escapedPart r e
      return (e, isRepeatable, r, rest)
    | '(' => do
      let (opening, rest) ← readOpening r rest
      let inside (r : Reading) (rest : List Char) :
          Except OrderedFlaw (Ordered × Reading × List Char) := do
        let (e, s, rest) ← readChoice fuel (depth + 1) r rest
        return (e, { s with manners := r.manners }, ← closeGroup rest)
      match opening with
      | .nothing => return (.empty, false, r, rest)
      | .reference name => return (← namedReference r name, true, r, rest)
      | .manners m false => return (.empty, false, { r with manners := m }, rest)
      | .manners m true =>
        let (e, s, rest) ← inside { r with manners := m } rest
        return (e, true, { s with manners := r.manners }, rest)
      | .plain =>
        let (e, r, rest) ← inside r rest
        return (e, true, r, rest)
      | .settled =>
        let (e, r, rest) ← inside r rest
        return (.settled e, true, r, rest)
      | .look isBehind isNegated =>
        let (e, r, rest) ← inside r rest
        if isBehind && !e.isEven then throw .unevenBehind
        else return (.look isBehind isNegated e, true, r, rest)
      | .kept name =>
        let number := r.count + 1
        if name.any fun n => (r.names.lookup n).isSome then throw .nameTwice
        else
          let names := match name with
            | some n => (n, number) :: r.names
            | none => r.names
          let (e, r, rest) ← inside { r with count := number, names := names } rest
          return (.group number e, true, r, rest)
    | c =>
      if (c = '*' || c = '+' || c = '?') || (c = '\x7b' && (bounds? rest).isSome) then
        .error .nothingToRepeat
      else .ok (char r c, true, r, rest)

end

/-- A pattern in which what is quoted has backslashes. -/
def unquoted : (isQuoting : Bool) → List Char → List Char
  | _, [] => []
  | false, '\\' :: 'Q' :: rest => unquoted true rest
  | _, '\\' :: 'E' :: rest => unquoted false rest
  | false, ['\\'] => ['\\']
  | false, '\\' :: c :: rest => '\\' :: c :: unquoted false rest
  | false, c :: rest => c :: unquoted false rest
  | true, c :: rest =>
    if c.isAlphanum || 127 < c.toNat then c :: unquoted true rest
    else '\\' :: c :: unquoted true rest

/-- Reads an expression. -/
def read (ignoresCase : Bool) (text : List Char) : Except OrderedFlaw Ordered := do
  let cs := unquoted false text
  let (e, r, _) ← readChoice (4 * cs.length + 8) 0 ⟨0, [], .plain ignoresCase, 0⟩ cs
  if r.count < r.largest then throw .unknownGroup else return e

/-- An expression that matches whole words only. -/
def asWord (e : Ordered) : Ordered :=
  .both (.look true true (ofKind false .wordChar))
    (.both e (.look false true (ofKind false .wordChar)))

/-- An expression that matches whole lines only. -/
def asLine (e : Ordered) : Ordered :=
  .both (.place (.lineStart false)) (.both e (.place (.lineEnd false)))

/-! ### Walking -/

/-- What groups have matched on the way, and where the match is to start. -/
structure Trail where
  groups : Expression.Groups
  start : Nat

/-- Whether some items hold a character. An octet that is no character is held by nothing but
itself. -/
def holdsOne (ignoresCase isNegated : Bool) (items : List OrderedItem) (c : Char) : Bool :=
  let isHeld (c : Char) : Bool := items.any (·.holds c)
  if Text.isStray c then !isNegated && items.contains (.range c c)
  else (isHeld c || (ignoresCase && isHeld (Text.otherCase c))) != isNegated

/-- Whether the same characters stand at two places. -/
def sameAt (text : Array Char) (ignoresCase : Bool) (i j : Nat) : Nat → Bool
  | 0 => true
  | n + 1 =>
    let same :=
      match text[i + n]?, text[j + n]? with
      | some a, some b => a == b || (ignoresCase && Text.otherCase a == b)
      | _, _ => false
    same && sameAt text ignoresCase i j n

/-- How a walk goes on from a place. It ends at a place, if it gets through. -/
abbrev Onward := Nat → Trail → Option (Nat × Trail)

/-- Walks over repetitions of a part and then goes on. -/
def walkRepeats (isShort : Bool) (walk : Nat → Trail → Onward → Option (Nat × Trail)) :
    (fuel : Nat) → (least : Nat) → (most : Option Nat) → Nat → Trail → Onward →
    Option (Nat × Trail)
  | 0, _, _, i, t, goOn => goOn i t
  | fuel + 1, least, most, i, t, goOn =>
    let more (_ : Unit) : Option (Nat × Trail) :=
      if most = some 0 then none
      else
        walk i t fun j t =>
          if j = i && least = 0 then goOn j t
          else walkRepeats isShort walk fuel (least - 1) (most.map (· - 1)) j t goOn
    if 0 < least then more ()
    else if isShort then (goOn i t).orElse more
    else (more ()).orElse fun _ => goOn i t

/-- Walks over a match from a place and then goes on. -/
def walk (text : Array Char) : Ordered → Nat → Trail → Onward → Option (Nat × Trail)
  | .empty, i, t, goOn => goOn i t
  | .one ignoresCase isNegated items, i, t, goOn =>
    if text[i]?.any (holdsOne ignoresCase isNegated items) then goOn (i + 1) t else none
  | .place k, i, t, goOn => if k.stands text i then goOn i t else none
  | .fresh, i, t, goOn => goOn i { t with start := i }
  | .group number e, i, t, goOn =>
    walk text e i t fun j t =>
      goOn j { t with groups := (number, i, j) :: t.groups.filter fun g => g.1 != number }
  | .reference ignoresCase number, i, t, goOn =>
    match t.groups.lookup number with
    | some (first, last) =>
      if sameAt text ignoresCase first i (last - first) then goOn (i + (last - first)) t else none
    | none => none
  | .both a b, i, t, goOn => walk text a i t fun j t => walk text b j t goOn
  | .either a b, i, t, goOn => (walk text a i t goOn).orElse fun _ => walk text b i t goOn
  | .repetition e least most .unyielding, i, t, goOn =>
    match walkRepeats false (walk text e) (text.size + least + 1) least most i t
      fun j t => some (j, t) with
    | some (j, t) => goOn j t
    | none => none
  | .repetition e least most greed, i, t, goOn =>
    walkRepeats (greed == .shortest) (walk text e) (text.size + least + 1) least most i t goOn
  | .settled e, i, t, goOn =>
    match walk text e i t fun j t => some (j, t) with
    | some (j, t) => goOn j t
    | none => none
  | .look isBehind isNegated e, i, t, goOn =>
    let found :=
      if isBehind then
        (List.range (i + 1)).reverse.findSome? fun k =>
          walk text e k t fun j t => if j = i then some (i, t) else none
      else walk text e i t fun _ t => some (i, t)
    match found, isNegated with
    | some (_, t), false => goOn i t
    | none, true => goOn i t
    | _, _ => none

/-- The first match at or after a place, from where it starts to where it ends. `fuel` bounds how
many places are tried. -/
def findFrom (text : Array Char) (e : Ordered) : (fuel : Nat) → Nat → Option (Nat × Nat)
  | 0, _ => none
  | fuel + 1, i =>
    match walk text e i ⟨[], i⟩ fun j t => some (j, t) with
    | some (j, t) => some (t.start, j)
    | none => findFrom text e fuel (i + 1)

/-- The first match at or after a place. -/
def find? (text : Array Char) (e : Ordered) (i : Nat) : Option (Nat × Nat) :=
  findFrom text e (text.size + 1 - i) i

end Ordered

end SnippetForge.Shell
