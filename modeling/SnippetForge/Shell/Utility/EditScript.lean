import SnippetForge.Shell.Expression
import SnippetForge.Shell.Format

/-!
# Scripts of editing commands

What `sed` does is said by a script: a list of commands, each for all lines, for the lines that an
address picks out, or for the lines from one address to another. Commands in braces are skipped
together; labels are places to jump to. Both become numbers of commands when a script has been read.

A script may be given in several pieces, which are read as one text. A flaw is told by the piece and
the place in it.
-/

namespace SnippetForge.Shell.Editing

/-! ### Commands -/

/-- What is looked for in the text that is edited. -/
structure Search where
  expression : Expression
  /-- How many groups it has. -/
  groups : Nat
  ignoresCase : Bool
  hasLines : Bool

/-- An address. A search that is left out is the last one that was used. -/
inductive Address
  | line (n : Nat)
  /-- Every line from one on that is a number of steps further. -/
  | stepped (first step : Nat)
  | last
  | found (search : Option Search)

/-- Where the lines end that start at an address. -/
inductive RangeEnd
  | line (n : Nat)
  /-- So many lines later. -/
  | after (n : Nat)
  /-- At the next line whose number is a multiple. -/
  | multiple (n : Nat)
  | last
  | found (search : Option Search)

/-- How letters are changed. -/
inductive CaseMode
  | kept
  | upper
  | lower
  deriving DecidableEq, Repr

/-- A piece of a replacement: a text and then what a group has matched. -/
structure ReplacementPart where
  text : List Char
  mode : CaseMode
  /-- How the first letter is changed, if that is said apart. -/
  first : Option CaseMode
  group : Option Nat

/-- A replacement of matches. -/
structure Substitution where
  search : Option Search
  parts : List ReplacementPart
  /-- Which match is the first that is replaced. -/
  number : Nat
  /-- Whether all later ones are replaced too. -/
  isGlobal : Bool
  prints : Bool
  /-- The file to which a changed line is written. -/
  target : Option String

/-- When a jump is made. -/
inductive JumpKind
  | always
  | ifReplaced
  | unlessReplaced
  deriving DecidableEq, Repr

/-- What a command does. -/
inductive Action
  | nothing
  /-- Goes on with a command, by its number. -/
  | jump (kind : JumpKind) (target : Nat)
  | append (text : List Char)
  | insert (text : List Char)
  | change (text : List Char)
  | readFile (name : String)
  | readLine (name : String)
  | writeFile (name : String)
  | writeFirst (name : String)
  | quit (code : Nat)
  | abandon (code : Nat)
  | replace (s : Substitution)
  | translate (pairs : List (Char × Char))
  | list (width : Option Nat)
  | lineNumber
  | fileName
  | delete
  | deleteFirst
  | next
  | nextAppended
  | print
  | printFirst
  | hold
  | holdMore
  | recall
  | recallMore
  | exchange
  | clear

/-- A command. -/
structure Command where
  first : Option Address
  last : Option RangeEnd
  isNegated : Bool
  action : Action

/-! ### Flaws -/

/-- What is wrong with a script. -/
inductive Flaw
  /-- Something is wrong when so many characters are left. -/
  | here (left : Nat) (text : String)
  /-- A brace is open that stands when so many characters are left. -/
  | unmatched (left : Nat)
  | noLabel (label : String)
  | misplacedClass

/-- A result or what is wrong when some characters are left. -/
abbrev Reading (α : Type) := Except Flaw (α × List Char)

/-- What is wrong in front of some characters. -/
def flawAt {α : Type} (left : List Char) (text : String) : Except Flaw α :=
  .error (.here left.length text)

/-- The mark between the pieces of a script; no octets are this character. -/
def pieceEnd : Char := Char.ofNat Text.strayBase

/-- Whether a character ends a line of a script. -/
def endsLine (c : Char) : Bool :=
  c == '\n' || c == pieceEnd

/-- Whether a character is a blank. -/
def isGap (c : Char) : Bool :=
  c == ' ' || c == '\t'

/-- Whether a character is white space of any kind. -/
def isWhite (c : Char) : Bool :=
  isGap c || endsLine c || c == '\r' || c.toNat == 11 || c.toNat == 12

/-- Reads past blanks. -/
def skipGaps (cs : List Char) : List Char :=
  cs.dropWhile isGap

/-- Reads a number. -/
def readNumber (cs : List Char) : Nat × List Char :=
  (Text.digitsValue (cs.takeWhile Char.isDigit), cs.dropWhile Char.isDigit)

/-! ### Escapes -/

/-- What a text is for in which escapes stand. -/
inductive EscapeUse
  | expression
  | replacement
  | text
  deriving DecidableEq, Repr

/-- The digits of a number in a base, at most a few, and what follows them. -/
def takeDigits (base most : Nat) (cs : List Char) : List Nat × List Char :=
  let digits := ((cs.take most).map hexDigit).takeWhile (· < base)
  (digits, cs.drop digits.length)
where
  /-- The value of a digit; other characters have a value that no base reaches. -/
  hexDigit (c : Char) : Nat :=
    if c.isDigit then c.toNat - 48
    else if 'a' ≤ c && c ≤ 'f' then c.toNat - 87
    else if 'A' ≤ c && c ≤ 'F' then c.toNat - 55
    else 16

/-- The control characters that letters after a backslash stand for. -/
def controls : List (Char × Nat) :=
  [('a', 7), ('f', 12), ('n', 10), ('r', 13), ('t', 9), ('v', 11)]

/-- The character that stands for what follows a backslash, and what is left; none if a backslash
and that character mean something else. -/
def escape? : List Char → Option (Char × List Char)
  | 'c' :: c :: rest =>
    if endsLine c then none
    else some (Char.ofNat (Nat.xor c.toUpper.toNat 64), rest)
  | 'x' :: rest => numbered 16 2 rest
  | 'o' :: rest => numbered 8 3 rest
  | 'd' :: rest => numbered 10 3 rest
  | c :: rest => (controls.lookup c).map fun n => (Char.ofNat n, rest)
  | [] => none
where
  /-- The character of a number. -/
  numbered (base most : Nat) (cs : List Char) : Option (Char × List Char) :=
    let (digits, rest) := takeDigits base most cs
    if digits.isEmpty then none
    else some (numberedChar (digits.foldl (fun n d => n * base + d) 0 % 256), rest)
  /-- The character that an octet is by itself. -/
  numberedChar (n : Nat) : Char :=
    if n < 128 then Char.ofNat n else Text.stray (Char.ofNat n)

/-- A text in which escapes are replaced by what they stand for. Other backslashes stay. In a
replacement a character that would mean something gets a backslash. -/
def unescape (use : EscapeUse) : (fuel : Nat) → List Char → List Char
  | 0, cs => cs
  | _ + 1, [] => []
  | fuel + 1, '\\' :: rest =>
    match escape? rest, rest with
    | some (c, after), _ =>
      let isSpecial := use == .replacement && (c == '&' || c == '\\')
      (if isSpecial then ['\\', c] else [c]) ++ unescape use fuel after
    | none, c :: after => '\\' :: c :: unescape use fuel after
    | none, [] => ['\\']
  | fuel + 1, c :: rest => c :: unescape use fuel rest

/-- A text in which escapes are replaced by what they stand for. -/
def unescaped (use : EscapeUse) (cs : List Char) : List Char :=
  unescape use (cs.length + 1) cs

/-! ### Delimited texts -/

/-- Reads a set in an expression up to its closing bracket, which cannot be the first item. The
delimiter may stand in it. -/
def readBracketText : (fuel : Nat) → (isFirst : Bool) → List Char → Option (List Char × List Char)
  | 0, _, _ => none
  | fuel + 1, isFirst, cs =>
    let goOn (done rest : List Char) (isFirst : Bool) : Option (List Char × List Char) :=
      (readBracketText fuel isFirst rest).map fun p => (done ++ p.1, p.2)
    match cs with
    | '[' :: mark :: rest =>
      if [':', '.', '='].contains mark then
        match Expression.readNamed mark rest with
        | some (name, rest) => goOn ('[' :: mark :: name ++ [mark, ']']) rest false
        | none => none
      else goOn ['['] (mark :: rest) false
    | '\\' :: 'n' :: rest => goOn ['\n'] rest false
    | '^' :: rest => goOn ['^'] rest isFirst
    | c :: rest =>
      if endsLine c then none
      else if c = ']' && !isFirst then some ([']'], rest)
      else goOn [c] rest false
    | [] => none

/-- Reads up to a delimiter, and past it. A backslash in front of the delimiter is dropped. -/
def readDelimited (delimiter : Char) (isExpression : Bool) : (fuel : Nat) → List Char →
    Option (List Char × List Char)
  | 0, _ => none
  | fuel + 1, cs =>
    let goOn (done rest : List Char) : Option (List Char × List Char) :=
      (readDelimited delimiter isExpression fuel rest).map fun p => (done ++ p.1, p.2)
    match cs with
    | [] => none
    | c :: rest =>
      if c = delimiter then some ([], rest)
      else if endsLine c then none
      else if c = '\\' then
        match rest with
        | [] => none
        | d :: rest =>
          if d = pieceEnd then none
          else if d = 'n' && isExpression then goOn ['\n'] rest
          else if d = '\n' then goOn ['\n'] rest
          else if d = delimiter && (isExpression || d != '&') then goOn [d] rest
          else goOn ['\\', d] rest
      else if c = '[' && isExpression then
        match readBracketText fuel true rest with
        | some (set, rest) => goOn ('[' :: set) rest
        | none => none
      else goOn [c] rest

/-- Reads up to a delimiter; what is wrong is told at the end of the line. -/
def readPart (delimiter : Char) (isExpression : Bool) (flaw : String) (cs : List Char) :
    Reading (List Char) :=
  match readDelimited delimiter isExpression (cs.length + 1) cs with
  | some result => .ok result
  | none => flawAt (afterLine (cs.length + 1) cs) flaw
where
  /-- What is left at the end of a line; a backslash takes the end of a line with it. -/
  afterLine : (fuel : Nat) → List Char → List Char
    | 0, cs => cs
    | fuel + 1, '\\' :: c :: rest => if c = pieceEnd then c :: rest else afterLine fuel rest
    | fuel + 1, c :: rest => if endsLine c then c :: rest else afterLine fuel rest
    | _ + 1, [] => []

/-! ### Searches -/

/-- How expressions are spelled. -/
def dialect (isExtended : Bool) : Expression.Dialect :=
  ⟨isExtended, false⟩

/-- Whether an expression is a single set whose brackets stand where those of a class should. -/
def isMisplacedClass (text : List Char) : Bool :=
  match text with
  | '[' :: ':' :: rest =>
    let name := rest.takeWhile Char.isAlpha
    rest.drop name.length == [':', ']']
  | _ => false

/-- The search for an expression; an empty one stands for the last search. -/
def searchFor (isExtended : Bool) (text : List Char) (ignoresCase hasLines : Bool)
    (left : List Char) : Except Flaw (Option Search) :=
  if text.isEmpty then
    if ignoresCase || hasLines then flawAt left "cannot specify modifiers on empty regexp"
    else .ok none
  else
    let text := Text.rejoined (unescaped .expression text)
    if isMisplacedClass text then .error .misplacedClass
    else
      match Expression.read (dialect isExtended) text with
      | .ok (e, groups) => .ok (some ⟨e, groups, ignoresCase, hasLines⟩)
      | .error flaw => flawAt left flaw.words

/-- Reads the letters after the expression of an address. -/
def readModifiers : List Char → Bool × Bool × List Char
  | 'I' :: rest =>
    let (_, hasLines, rest) := readModifiers rest
    (true, hasLines, rest)
  | 'M' :: rest =>
    let (ignoresCase, _, rest) := readModifiers rest
    (ignoresCase, true, rest)
  | c :: rest => if isGap c then readModifiers rest else (false, false, c :: rest)
  | [] => (false, false, [])

/-! ### Addresses -/

/-- Reads a search between delimiters. -/
def readSearch (isExtended : Bool) (delimiter : Char) (cs : List Char) :
    Except Flaw (Option Search × List Char) := do
  let (text, rest) ← readPart delimiter true "unterminated address regex" cs
  let (ignoresCase, hasLines, rest) := readModifiers rest
  let search ← searchFor isExtended text ignoresCase hasLines rest
  return (search, rest)

/-- Reads an address, if one is there. -/
def readAddress (isExtended : Bool) (cs : List Char) : Reading (Option Address) :=
  let found (delimiter : Char) (rest : List Char) : Reading (Option Address) :=
    (readSearch isExtended delimiter rest).map fun p => (some (.found p.1), p.2)
  match cs with
  | '$' :: rest => .ok (some .last, rest)
  | '/' :: rest => found '/' rest
  | '\\' :: delimiter :: rest => found delimiter rest
  | c :: rest =>
    if c.isDigit then
      let (n, rest) := readNumber (c :: rest)
      match skipGaps rest with
      | '~' :: rest =>
        let (step, rest) := readNumber (skipGaps rest)
        .ok (some (if step = 0 then .line n else .stepped n step), rest)
      | rest => .ok (some (.line n), rest)
    else if c = '+' || c = '~' then
      flawAt (skipGaps rest |>.dropWhile Char.isDigit) "invalid usage of +N or ~N as first address"
    else .ok (none, c :: rest)
  | [] => .ok (none, [])

/-- Reads the end of a range. -/
def readRangeEnd (isExtended : Bool) (cs : List Char) : Reading RangeEnd :=
  match cs with
  | '+' :: rest =>
    let (n, rest) := readNumber (skipGaps rest)
    .ok (.after n, rest)
  | '~' :: rest =>
    let (n, rest) := readNumber (skipGaps rest)
    .ok (.multiple n, rest)
  | cs =>
    match readAddress isExtended cs with
    | .error flaw => .error flaw
    | .ok (some (.line n), rest) => .ok (.line n, rest)
    | .ok (some .last, rest) => .ok (.last, rest)
    | .ok (some (.found search), rest) => .ok (.found search, rest)
    | .ok (some (.stepped n _), rest) => .ok (.line n, rest)
    | .ok (none, c :: rest) => flawAt (if endsLine c then c :: rest else rest) "unexpected `,'"
    | .ok (none, []) => flawAt [] "unexpected `,'"

/-! ### Replacements -/

/-- A replacement that is being read: its parts, the last one first, the text before the next mark,
last character first, and how letters are changed now and later. -/
structure ReplacementState where
  parts : List ReplacementPart
  text : List Char
  mode : CaseMode
  first : Option CaseMode
  saved : CaseMode

namespace ReplacementState

/-- Ends a part. -/
def close (s : ReplacementState) (group : Option Nat) : ReplacementState :=
  { s with
    parts := ⟨s.text.reverse, s.mode, s.first, group⟩ :: s.parts, text := [], mode := s.saved,
    first := none }

/-- Goes on with another way to change letters. -/
def withMode (s : ReplacementState) (mode : CaseMode) : ReplacementState :=
  { s.close none with mode := mode, saved := mode }

/-- Goes on with another way to change the next letter. -/
def withFirst (s : ReplacementState) (mode : CaseMode) : ReplacementState :=
  { s.close none with first := some mode }

/-- Ends a part with a character that stands for itself. -/
def closeWith (s : ReplacementState) (c : Char) : ReplacementState :=
  ({ s with text := c :: s.text }).close none

end ReplacementState

/-- Reads the parts of a replacement. -/
def replacementParts : ReplacementState → List Char → List ReplacementPart
  | s, [] => (if s.text.isEmpty then s else s.close none).parts.reverse
  | s, '\\' :: c :: rest =>
    let s :=
      match c with
      | 'L' => s.withMode .lower
      | 'U' => s.withMode .upper
      | 'E' => s.withMode .kept
      | 'l' => s.withFirst .lower
      | 'u' => s.withFirst .upper
      | c => if c.isDigit then s.close (some (c.toNat - 48)) else s.closeWith c
    replacementParts s rest
  | s, '&' :: rest => replacementParts (s.close (some 0)) rest
  | s, c :: rest => replacementParts { s with text := c :: s.text } rest

/-- The largest number of a group that a replacement names. -/
def largestGroup (parts : List ReplacementPart) : Nat :=
  parts.foldl (fun n part => max n (part.group.getD 0)) 0

/-! ### Flags -/

/-- The flags of a replacement. -/
structure Flags where
  number : Option Nat
  isGlobal : Bool
  prints : Bool
  ignoresCase : Bool
  hasLines : Bool
  target : Option String

/-- Reads the name of a file up to the end of the line. -/
def readFileName (cs : List Char) : Reading String :=
  let name := (skipGaps cs).takeWhile fun c => !endsLine c
  let rest := (skipGaps cs).drop name.length
  if name.isEmpty then flawAt rest "missing filename in r/R/w/W commands"
  else .ok (Text.octetsOf (String.ofList name), rest.drop 1)

/-- Reads the flags of a replacement. -/
def readFlags : (fuel : Nat) → Flags → List Char → Reading Flags
  | 0, f, cs => .ok (f, cs)
  | _ + 1, f, [] => .ok (f, [])
  | fuel + 1, f, c :: rest =>
    match c with
    | 'g' =>
      if f.isGlobal then flawAt rest "multiple `g' options to `s' command"
      else readFlags fuel { f with isGlobal := true } rest
    | 'p' =>
      if f.prints then flawAt rest "multiple `p' options to `s' command"
      else readFlags fuel { f with prints := true } rest
    | 'i' => readFlags fuel { f with ignoresCase := true } rest
    | 'I' => readFlags fuel { f with ignoresCase := true } rest
    | 'm' => readFlags fuel { f with hasLines := true } rest
    | 'M' => readFlags fuel { f with hasLines := true } rest
    | 'w' => (readFileName rest).map fun p => ({ f with target := some p.1 }, p.2)
    | c =>
      if c.isDigit then
        let (n, rest) := readNumber (c :: rest)
        if f.number.isSome then flawAt rest "multiple number options to `s' command"
        else if n = 0 then flawAt rest "number option to `s' command may not be zero"
        else readFlags fuel { f with number := some n } rest
      else if isGap c then readFlags fuel f rest
      else if c = '\x7d' || c = '#' then .ok (f, c :: rest)
      else if c = ';' || endsLine c then .ok (f, rest)
      else flawAt rest "unknown option to `s'"

/-- Reads a replacement of matches. -/
def readSubstitution (isExtended : Bool) (cs : List Char) : Except Flaw (Action × List Char) := do
  let flaw := "unterminated `s' command"
  match cs with
  | [] => flawAt [] flaw
  | delimiter :: cs =>
    let (expression, cs) ← readPart delimiter true flaw cs
    let (text, cs) ← readPart delimiter false flaw cs
    let text := unescaped .replacement text
    let parts := replacementParts ⟨[], [], .kept, none, .kept⟩ text
    let (f, rest) ← readFlags (cs.length + 1) ⟨none, false, false, false, false, none⟩ cs
    let left := endOfFlags f cs rest
    let search ← searchFor isExtended expression f.ignoresCase f.hasLines left
    let most := largestGroup parts
    let groups :=
      match search with
      | some s => s.groups
      | none => 9
    if groups < most then
      flawAt left ("invalid reference \\" ++ toString most ++ " on `s' command's RHS")
    else
      return (.replace ⟨search, parts, f.number.getD 1, f.isGlobal, f.prints, f.target⟩, rest)
where
  /-- What counts as left behind the flags: a line end is not counted at the end of a piece. -/
  endOfFlags (f : Flags) (cs rest : List Char) : List Char :=
    match (cs.drop (cs.length - rest.length - 1)).head? with
    | some c => if c = pieceEnd && f.target.isNone then c :: rest else rest
    | none => rest

/-! ### Texts -/

/-- Reads a text up to a line end that has no backslash in front of it. -/
def readLines : List Char → List Char × List Char
  | [] => ([], [])
  | '\\' :: [] => ([], [])
  | '\\' :: c :: rest =>
    let (text, left) := readLines rest
    ((if endsLine c then ['\n'] else ['\\', c]) ++ text, left)
  | c :: rest =>
    if endsLine c then ([], rest)
    else
      let (text, left) := readLines rest
      (c :: text, left)

/-- A text without the backslashes that are left in it. -/
def dropBackslashes : List Char → List Char
  | [] => []
  | '\\' :: c :: rest => c :: dropBackslashes rest
  | c :: rest => c :: dropBackslashes rest

/-- Reads the text of a command. -/
def readText (cs : List Char) : Reading (List Char) :=
  let flaw := "expected \\ after `a', `c' or `i'"
  let finish (front : List Char) (rest : List Char) : Reading (List Char) :=
    let (text, left) := readLines rest
    .ok (dropBackslashes (unescaped .text (front ++ text)) ++ ['\n'], left)
  match skipGaps cs with
  | [] => flawAt [] flaw
  | '\\' :: [] => .ok ([], [])
  | '\\' :: c :: rest =>
    if endsLine c then (if rest.isEmpty then .ok ([], []) else finish [] rest)
    else finish [c] rest
  | c :: rest =>
    if c = pieceEnd then flawAt (c :: rest) flaw
    else if c = '\n' then .ok (['\n'], rest)
    else finish [c] rest

/-! ### Translations -/

/-- The characters of one side of a translation. -/
def translationChars : List Char → List Char
  | [] => []
  | '\\' :: c :: rest => c :: translationChars rest
  | c :: rest => c :: translationChars rest

/-- Reads past the end of a command. -/
def readEnd (cs : List Char) : Except Flaw (List Char) :=
  match skipGaps cs with
  | [] => .ok []
  | c :: rest =>
    if c = '\x7d' || c = '#' then .ok (c :: rest)
    else if c = ';' || endsLine c then .ok rest
    else flawAt rest "extra characters after command"

/-- Reads a translation of characters. -/
def readTranslation (cs : List Char) : Except Flaw (Action × List Char) := do
  let flaw := "unterminated `y' command"
  match cs with
  | [] => flawAt [] flaw
  | delimiter :: cs =>
    let (source, cs) ← readPart delimiter false flaw cs
    let (target, cs) ← readPart delimiter false flaw cs
    let source := translationChars (unescaped .text source)
    let target := translationChars (unescaped .text target)
    if source.length != target.length then
      flawAt cs "strings for `y' command are different lengths"
    else return (.translate (source.zip target), ← readEnd cs)

/-! ### Commands -/

/-- A command as it is read: what it does, or a part of the script's shape. -/
inductive Item
  | plain (action : Action)
  | opening
  | closing
  | label (name : String)
  | jump (kind : JumpKind) (label : String)
  /-- A comment. -/
  | none

/-- Reads a label. -/
def readLabel (cs : List Char) : String × List Char :=
  let name := (skipGaps cs).takeWhile fun c => !isWhite c && c != ';' && c != '\x7d'
  (Text.octetsOf (String.ofList name), (skipGaps cs).drop name.length)

/-- The commands that are a letter only. -/
def plainActions : List (Char × Action) :=
  [('=', .lineNumber), ('d', .delete), ('D', .deleteFirst), ('F', .fileName), ('g', .recall),
    ('G', .recallMore), ('h', .hold), ('H', .holdMore), ('n', .next), ('N', .nextAppended),
    ('p', .print), ('P', .printFirst), ('x', .exchange), ('z', .clear)]

/-- Reads a number that may stand after a command. -/
def readCount (cs : List Char) : Except Flaw (Option Nat × List Char) := do
  match skipGaps cs with
  | c :: rest =>
    if c.isDigit then
      let (n, rest) := readNumber (c :: rest)
      return (some n, ← readEnd rest)
    else return (none, ← readEnd (c :: rest))
  | [] => return (none, [])

/-- Reads what a command does from its letter on. `depth` is how many braces are open. -/
def readItem (isExtended : Bool) (depth : Nat) (hasAddress hasRange : Bool) (cs : List Char) :
    Reading Item :=
  let plain (r : Reading Action) : Reading Item := r.map fun p => (.plain p.1, p.2)
  let named (use : String → Action) (rest : List Char) : Reading Item :=
    (readFileName rest).map fun p => (.plain (use p.1), p.2)
  let text (use : List Char → Action) (rest : List Char) : Reading Item :=
    (readText rest).map fun p => (.plain (use p.1), p.2)
  let jump (kind : JumpKind) (rest : List Char) : Reading Item :=
    let (label, rest) := readLabel rest
    (readEnd' rest).map fun rest => (.jump kind label, rest)
  match cs with
  | [] => flawAt [] "missing command"
  | c :: rest =>
    match c with
    | '#' =>
      if hasAddress then flawAt rest "comments don't accept any addresses"
      else .ok (.none, (rest.dropWhile fun c => !endsLine c).drop 1)
    | '\x7b' => .ok (.opening, rest)
    | '\x7d' =>
      if depth = 0 then flawAt rest "unexpected `\x7d'"
      else if hasAddress then flawAt rest "\x7d doesn't want any addresses"
      else (readEnd rest).map fun rest => (.closing, rest)
    | ':' =>
      if hasAddress then flawAt rest ": doesn't want any addresses"
      else
        let (name, rest) := readLabel rest
        if name = "" then flawAt rest "\":\" lacks a label"
        else .ok (.label name, rest)
    | 'a' => text .append rest
    | 'i' => text .insert rest
    | 'c' => text .change rest
    | 'b' => jump .always rest
    | 't' => jump .ifReplaced rest
    | 'T' => jump .unlessReplaced rest
    | 'r' => named .readFile rest
    | 'R' => named .readLine rest
    | 'w' => named .writeFile rest
    | 'W' => named .writeFirst rest
    | 'q' =>
      if hasRange then flawAt rest "command only uses one address"
      else plain ((readCount rest).map fun p => (.quit (p.1.getD 0), p.2))
    | 'Q' =>
      if hasRange then flawAt rest "command only uses one address"
      else plain ((readCount rest).map fun p => (.abandon (p.1.getD 0), p.2))
    | 'l' => plain ((readCount rest).map fun p => (.list p.1, p.2))
    | 's' => plain (readSubstitution isExtended rest)
    | 'y' => plain (readTranslation rest)
    | 'v' => .ok (.none, (rest.dropWhile fun c => !endsLine c && c != ';').drop 1)
    | c =>
      match plainActions.lookup c with
      | some action => (readEnd rest).map fun rest => (.plain action, rest)
      | none =>
        if endsLine c then flawAt (c :: rest) "missing command"
        else flawAt rest ("unknown command: `" ++ Text.octetsOf (String.singleton c) ++ "'")
where
  /-- Reads past the end of a jump; more commands may follow its label right away. -/
  readEnd' (cs : List Char) : Except Flaw (List Char) :=
    match skipGaps cs with
    | ';' :: rest => .ok rest
    | rest => .ok rest

/-- A command with the addresses that stand in front of it. -/
structure Line where
  first : Option Address
  last : Option RangeEnd
  isNegated : Bool
  item : Item
  /-- How many characters were left after it. -/
  left : Nat

/-- Whether an address is a line before all lines. -/
def isZeroth : Option Address → Bool
  | some (.line 0) => true
  | _ => false

/-- Whether a range ends where something is found. -/
def endsAtSearch : Option RangeEnd → Bool
  | some (.found _) => true
  | _ => false

/-- Reads a command with its addresses. -/
def readLine (isExtended : Bool) (depth : Nat) (cs : List Char) :
    Except Flaw (Line × List Char) := do
  let (first, cs) ← readAddress isExtended cs
  let cs := skipGaps cs
  let (stop, cs) ←
    match first, cs with
    | some _, ',' :: rest => do
      let (stop, rest) ← readRangeEnd isExtended (skipGaps rest)
      pure (some stop, skipGaps rest)
    | _, cs => pure (none, cs)
  if isZeroth first && !endsAtSearch stop then
    flawAt (cs.drop 1) "invalid usage of line address 0"
  else
    let (isNegated, cs) ←
      match cs with
      | '!' :: rest =>
        match skipGaps rest with
        | '!' :: rest => flawAt rest "multiple `!'s"
        | rest => pure (true, rest)
      | cs => pure (false, cs)
    let (item, cs) ← readItem isExtended depth first.isSome stop.isSome cs
    return (⟨first, stop, isNegated, item, cs.length⟩, cs)

/-- How many braces are open after a command. -/
def depthAfter (depth : Nat) (line : Line) : Nat :=
  match line.item with
  | .opening => depth + 1
  | .closing => depth - 1
  | _ => depth

/-- Reads all commands. -/
def readAll (isExtended : Bool) : (fuel depth : Nat) → List Char → Except Flaw (List Line)
  | 0, _, _ => .ok []
  | fuel + 1, depth, cs =>
    match cs.dropWhile fun c => isWhite c || c == ';' with
    | [] => .ok []
    | cs => do
      let (line, rest) ← readLine isExtended depth cs
      return line :: (← readAll isExtended fuel (depthAfter depth line) rest)

/-! ### Shape -/

/-- The numbers of the commands that close braces: each with the one that opens them. `opened` are
the braces that are open, the last one first. -/
def matchBraces : (opened : List (Nat × Nat)) → (number : Nat) → List Line →
    Except Flaw (List (Nat × Nat))
  | [], _, [] => .ok []
  | (_, left) :: _, _, [] => .error (.unmatched left)
  | opened, n, line :: rest =>
    match line.item, opened with
    | .opening, _ => matchBraces ((n, line.left) :: opened) (n + 1) rest
    | .closing, (start, _) :: opened =>
      (matchBraces opened (n + 1) rest).map fun pairs => (start, n) :: pairs
    | _, _ => matchBraces opened (n + 1) rest

/-- The number of the command that a label stands in front of. -/
def labelAt? (lines : List Line) (label : String) : Option Nat :=
  lines.findIdx? fun line =>
    match line.item with
    | .label name => name == label
    | _ => false

/-- A command whose jumps are numbers. -/
def resolve (lines : List Line) (pairs : List (Nat × Nat)) (number : Nat) (line : Line) :
    Except Flaw Command :=
  let command (action : Action) : Command := ⟨line.first, line.last, line.isNegated, action⟩
  match line.item with
  | .plain action => .ok (command action)
  | .opening =>
    let target := (pairs.lookup number).getD lines.length
    .ok { command (.jump .always target) with isNegated := !line.isNegated }
  | .jump kind "" => .ok (command (.jump kind lines.length))
  | .jump kind label =>
    match labelAt? lines label with
    | some target => .ok (command (.jump kind target))
    | none => .error (.noLabel label)
  | _ => .ok (command .nothing)

/-- Reads a script. -/
def readScript (isExtended : Bool) (cs : List Char) : Except Flaw (List Command) := do
  let lines ← readAll isExtended (cs.length + 1) 0 cs
  let pairs ← matchBraces [] 0 lines
  (lines.zip (List.range lines.length)).mapM fun e => resolve lines pairs e.2 e.1

end SnippetForge.Shell.Editing
