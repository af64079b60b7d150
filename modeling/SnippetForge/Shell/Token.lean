import SnippetForge.Shell.Syntax

/-!
# Pieces of shell scripts

What a reader of scripts meets first: the classes of characters, the gaps between words, tokens and
the complaints about them, and the parts of a script that are read as they stand.

A reader works on the characters that are left. As it knows the last line of its text, the line
ends among them tell it where it is.
-/

namespace SnippetForge.Shell

/-! ### Flaws -/

/-- Why a text is no script, with the line where that shows. -/
structure Flaw where
  line : Nat
  reason : String

/-- Stands for the end of a line that has been read ahead of its place. No script holds it, because
a script consists of octets. -/
def takenEnd : Char := '\u2028'

/-- Stands for the end of a line that is joined to the next one, behind characters that are read
together. It is as if it were not there. -/
def joinedEnd : Char := '\u2060'

/-- The number of line ends in some characters. -/
def lineEnds (cs : List Char) : Nat :=
  (cs.filter fun c => c == '\n' || c == takenEnd || c == joinedEnd).length

/-- What a reader knows about its text: its last line, and the words that stand for other text. -/
structure Reading where
  lastLine : Nat
  aliases : List (String × String)
  /-- The aliases whose text is being read. -/
  opened : List String
  /-- Whether the text is a part of the script that ends where a delimiter stands. -/
  isHere : Bool

namespace Reading

/-- What a reader of a whole text knows. -/
def ofText (text : List Char) (aliases : List (String × String)) : Reading :=
  ⟨lineEnds text + 1, aliases, [], false⟩

/-- The line before some characters. -/
def lineAt (k : Reading) (cs : List Char) : Nat :=
  k.lastLine - lineEnds cs

/-- The text that a word stands for as an alias. -/
def aliasOf? (k : Reading) (word : String) : Option String :=
  if k.opened.contains word then none else k.aliases.lookup word

/-- What a reader knows inside of the text of an alias. -/
def within (k : Reading) (word : String) : Reading :=
  { k with opened := word :: k.opened }

/-- The flaw of a reader that has run out of fuel. -/
def exhausted (k : Reading) : Flaw :=
  ⟨k.lastLine, "Nested too deeply"⟩

/-- The flaw of an old-style substitution without end. -/
def openSubstitution (k : Reading) : Flaw :=
  ⟨k.lastLine, "EOF in backquote substitution"⟩

/-- The flaw of a quotation without end. -/
def openQuotation (k : Reading) : Flaw :=
  ⟨k.lastLine, "Unterminated quoted string"⟩

/-- The flaw of a braced parameter without end, which is an open quotation inside of one. Where a
delimiter ends the text there are no quotations, and the flaw shows after the delimiter. -/
def openBrace (k : Reading) (isQuoted : Bool) : Flaw :=
  if k.isHere then ⟨k.lastLine + 1, "Missing '\x7d'"⟩
  else if isQuoted then k.openQuotation
  else ⟨k.lastLine, "Missing '\x7d'"⟩

/-- The flaw of a word that cannot name a function. -/
def badFunction (k : Reading) (rest : List Char) : Flaw :=
  ⟨k.lineAt rest, "Bad function name"⟩

/-- The flaw of an expression without end. -/
def openExpression (k : Reading) : Flaw :=
  ⟨k.lastLine, "Missing '))'"⟩

end Reading

/-! ### Characters -/

/-- Whether a character separates words. -/
def isGap (c : Char) : Bool :=
  c == ' ' || c == '\t' || c == takenEnd

/-- Whether a character ends a word. -/
def endsWord (c : Char) : Bool :=
  isGap c || c == '\n' || c == ';' || c == '&' || c == '|' || c == '<' || c == '>' || c == '('
    || c == ')'

/-- Whether a character may start a name. -/
def startsName (c : Char) : Bool :=
  c.isAlpha || c == '_'

/-- Whether a character may stand in a name. -/
def isNameChar (c : Char) : Bool :=
  c.isAlphanum || c == '_'

/-- Whether a text is a name. -/
def isName (text : String) : Bool :=
  (text.toList.head?).any startsName && text.toList.all isNameChar

/-- Whether a character alone names a special parameter. -/
def isSpecial (c : Char) : Bool :=
  c == '#' || c == '@' || c == '*' || c == '?' || c == '$' || c == '!' || c == '-'

/-- The quotation mark of an old-style substitution. -/
def backquote : Char :=
  Char.ofNat 96

/-! ### Joined lines -/

/-- Skips ends of lines that are joined. -/
def skipJoins : List Char → List Char
  | '\\' :: '\n' :: rest => skipJoins rest
  | c :: rest => if c = joinedEnd then skipJoins rest else c :: rest
  | [] => []

/-- The characters of some kind at the start of some characters, with lines joined, the number of
lines that are joined there, and what follows. -/
def joinedRun (isMember : Char → Bool) : List Char → List Char × Nat × List Char
  | '\\' :: '\n' :: rest =>
    let (run, ends, rest) := joinedRun isMember rest
    (run, ends + 1, rest)
  | c :: rest =>
    if c = joinedEnd then
      let (run, ends, rest) := joinedRun isMember rest
      (run, ends + 1, rest)
    else if isMember c then
      let (run, ends, rest) := joinedRun isMember rest
      (c :: run, ends, rest)
    else ([], 0, c :: rest)
  | [] => ([], 0, [])

/-- Moves the ends of joined lines behind the characters of some kind among which they are. -/
def joinRun (isMember : Char → Bool) (cs : List Char) : List Char :=
  match joinedRun isMember cs with
  | (_, 0, _) => cs
  | (run, ends, rest) => run ++ List.replicate ends joinedEnd ++ rest

/-- Whether a character belongs to a token without quotes or parameters. -/
def isTokenChar (c : Char) : Bool :=
  !(isGap c || c == '\n' || c == '\'' || c == '"' || c == '$' || c == backquote || c == '\\'
    || c == '#')

/-- Skips blanks, joined lines and a comment. What follows is a token that no line end divides. -/
def skipGaps : List Char → List Char
  | '\\' :: '\n' :: rest => skipGaps rest
  | c :: rest =>
    if isGap c || c == joinedEnd then skipGaps rest
    else if c = '#' then rest.dropWhile (· != '\n')
    else joinRun isTokenChar (c :: rest)
  | [] => []

/-- Skips blanks, comments and line ends. -/
def skipLines : Nat → List Char → List Char
  | 0, cs => cs
  | fuel + 1, cs =>
    match skipGaps cs with
    | '\n' :: rest => skipLines fuel rest
    | rest => rest

/-- Skips blanks, comments and line ends. -/
def skipSpace (cs : List Char) : List Char :=
  skipLines (cs.length + 1) cs

/-! ### Tokens -/

/-- The words that open, divide and close compound commands. -/
def reservedWords : List String :=
  ["!", "case", "do", "done", "elif", "else", "esac", "fi", "for", "if", "in", "then", "until",
    "while", "\x7b", "\x7d"]

/-- The reserved words that end a list of commands. -/
def closers : List String :=
  ["do", "done", "then", "else", "elif", "fi", "esac", "\x7d"]

/-- Commands of the shell that no function can replace and whose failure ends the script. -/
def specialBuiltins : List String :=
  [".", ":", "break", "continue", "eval", "exec", "exit", "export", "readonly", "return", "set",
    "shift", "times", "trap", "unset"]

/-- The characters of a word at the start of some characters. -/
def plainStart (cs : List Char) : String :=
  String.ofList ((cs.takeWhile fun c => !endsWord c).filter (· != joinedEnd))

/-- The operator at the start of some characters. -/
def operatorStart : List Char → Option String
  | '&' :: '&' :: _ => some "&&"
  | '|' :: '|' :: _ => some "||"
  | ';' :: ';' :: _ => some ";;"
  | '&' :: _ => some "&"
  | '|' :: _ => some "|"
  | ';' :: _ => some ";"
  | '(' :: _ => some "("
  | ')' :: _ => some ")"
  | _ => none

/-- The name of the token at the start of some characters, where a word is reserved or not, and what
follows it. -/
def tokenStart (mayReserve : Bool) (cs : List Char) : String × List Char :=
  match cs with
  | [] => ("end of file", [])
  | '\n' :: rest => ("newline", rest)
  | c :: rest =>
    match operatorStart cs with
    | some operator => ("\"" ++ operator ++ "\"", cs.drop operator.length)
    | none =>
      if c = '<' || c = '>' then ("redirection", rest)
      else
        let word := plainStart cs
        (if mayReserve && reservedWords.contains word then "\"" ++ word ++ "\"" else "word",
          cs.drop word.length)

/-- The flaw of a token that cannot stand where it does, where a word is reserved or not. -/
def unexpectedToken (k : Reading) (mayReserve : Bool) (cs : List Char) (wanted : Option String) :
    Flaw :=
  let (name, rest) := tokenStart mayReserve (skipGaps cs)
  ⟨k.lineAt rest,
    match wanted with
    | some word => name ++ " unexpected (expecting \"" ++ word ++ "\")"
    | none => name ++ " unexpected"⟩

/-- The flaw of a token that cannot stand where a word is reserved. -/
def unexpected (k : Reading) (cs : List Char) (wanted : Option String) : Flaw :=
  unexpectedToken k true cs wanted

/-- What follows the text of an alias. If that ends in a blank, the word after it may be an alias
too. -/
def afterAlias (k : Reading) : Nat → (text : String) → List Char → List Char
  | 0, _, rest => rest
  | fuel + 1, text, rest =>
    if (text.toList.getLast?).any isGap then
      let cs := skipGaps rest
      let word := plainStart cs
      match k.aliasOf? word with
      | some next => next.toList ++ afterAlias k fuel next (cs.drop word.length)
      | none => rest
    else rest

/-- The characters that a word stands for as an alias, in front of those that follow it. -/
def openAlias? (k : Reading) (word : String) (rest : List Char) : Option (List Char) :=
  (k.aliasOf? word).map fun text => text.toList ++ afterAlias k (rest.length + 1) text rest

/-- Whether a list of commands ends here. -/
def atClose (cs : List Char) : Bool :=
  match cs with
  | [] => true
  | ')' :: _ => true
  | ';' :: ';' :: _ => true
  | cs => closers.contains (plainStart cs)

/-- Reads a reserved word if it is there. -/
def reserved? (word : String) (cs : List Char) : Option (List Char) :=
  let cs := skipSpace cs
  if plainStart cs = word then some (cs.drop word.length) else none

/-- Reads a reserved word. -/
def expectWord (k : Reading) (word : String) (cs : List Char) : Except Flaw (List Char) :=
  match reserved? word cs with
  | some rest => .ok rest
  | none => .error (unexpected k (skipSpace cs) (some word))

/-- Reads a closing parenthesis. -/
def expectParen (k : Reading) (cs : List Char) : Except Flaw (List Char) :=
  match cs with
  | ')' :: rest => .ok rest
  | cs => .error (unexpected k cs (some ")"))

/-! ### Pieces of words -/

/-- A fragment in front of the fragments of a word; neighbouring literals are joined. -/
def consFragment (f : Fragment) (w : Word) : Word :=
  match f, w with
  | .literal a p, .literal b q :: rest =>
    if p = q then .literal (a ++ b) p :: rest else f :: w
  | _, _ => f :: w

/-- A piece of a word in front of what a reader makes of the rest. -/
def consRead (f : Fragment) (result : Except Flaw (Word × List Char)) :
    Except Flaw (Word × List Char) :=
  result.map fun p => (consFragment f p.1, p.2)

/-- A character in front of what a reader makes of the rest of a word. -/
def consChar (c : Char) (isQuoted : Bool) (result : Except Flaw (Word × List Char)) :
    Except Flaw (Word × List Char) :=
  consRead (.literal (String.singleton c) isQuoted) result

/-- The fragments of a quotation; an empty one is a piece of the word too. -/
def quotation (inner : Word) : Word :=
  if inner.isEmpty then [.literal "" true] else inner

/-- The text of an old-style substitution up to its closing mark, with the characters that a
backslash protects in it. -/
def readBackquoted (isQuoted : Bool) : List Char → Option (List Char × List Char)
  | [] => none
  | '\\' :: '\n' :: rest => readBackquoted isQuoted rest
  | '\\' :: c :: rest =>
    let isPlain := c == '$' || c == '\\' || c == backquote || (isQuoted && c == '"')
    (readBackquoted isQuoted rest).map fun p =>
      (if isPlain then c :: p.1 else '\\' :: c :: p.1, p.2)
  | c :: rest =>
    if c = backquote then some ([], rest)
    else (readBackquoted isQuoted rest).map fun p => (c :: p.1, p.2)

/-- Skips what stands where the operator of a braced parameter is to stand. A line end there counts
for no line. -/
def skipUnknownEdit (k : Reading) (cs : List Char) : Reading × List Char :=
  let skip : List Char → Reading × List Char
    | '\n' :: rest => ({ k with lastLine := k.lastLine - 1 }, rest)
    | cs => (k, cs.drop 1)
  match cs with
  | ':' :: rest => skip (skipJoins rest)
  | cs => skip cs

/-- Whether a character may stand in the operator of a braced parameter. -/
def isEditChar (c : Char) : Bool :=
  c == ':' || c == '-' || c == '=' || c == '?' || c == '+' || c == '%' || c == '#'

/-- The operator of a braced parameter, as an edit by the word after it, with that word's
characters and those that follow. Whether the word is a pattern is told too, since a pattern is
read as if it stood outside of quotes. -/
def editOperator : List Char → Option ((Word → Edit) × Bool × List Char)
  | '%' :: '%' :: rest => some (.drop true true, true, rest)
  | '%' :: rest => some (.drop true false, true, rest)
  | '#' :: '#' :: rest => some (.drop false true, true, rest)
  | '#' :: rest => some (.drop false false, true, rest)
  | ':' :: '-' :: rest => some (.default true, false, rest)
  | ':' :: '=' :: rest => some (.assign true, false, rest)
  | ':' :: '?' :: rest => some (.demand true, false, rest)
  | ':' :: '+' :: rest => some (.alternative true, false, rest)
  | '-' :: rest => some (.default false, false, rest)
  | '=' :: rest => some (.assign false, false, rest)
  | '?' :: rest => some (.demand false, false, rest)
  | '+' :: rest => some (.alternative false, false, rest)
  | _ => none

/-- The name of a parameter at the start of some characters, whose lines are joined. -/
def parameterStart (cs : List Char) : Option (String × List Char) :=
  match cs with
  | [] => none
  | c :: rest =>
    if startsName c then
      some (String.ofList (cs.takeWhile isNameChar), cs.dropWhile isNameChar)
    else if c.isDigit then
      some (String.ofList (cs.takeWhile Char.isDigit), cs.dropWhile Char.isDigit)
    else if isSpecial c then some (String.singleton c, rest)
    else none

/-- The descriptor in front of a redirection, a single digit, and the characters after it. -/
def descriptorStart (cs : List Char) : Option Nat × List Char :=
  match cs with
  | digit :: c :: rest =>
    if digit.isDigit && (c == '<' || c == '>') then (some (digit.toNat - 48), c :: rest)
    else (none, cs)
  | cs => (none, cs)

/-! ### Parts of the script that are read as they stand -/

/-- The rest of the current line, and what follows from its end on. A line end between quotes is a
part of the line. -/
def cutLine (quote : Option Char) : List Char → List Char × List Char
  | [] => ([], [])
  | c :: rest =>
    if c = '\n' && quote.isNone then ([], c :: rest)
    else if quote.isNone && isGap c && rest.head? == some '#' then
      (c :: rest.takeWhile (· != '\n'), rest.dropWhile (· != '\n'))
    else if c = '\\' && quote != some '\'' then
      match rest with
      | [] => ([c], [])
      | d :: rest =>
        let (current, following) := cutLine quote rest
        (c :: d :: current, following)
    else
      let quote :=
        if quote == some c then none
        else if quote.isNone && (c == '\'' || c == '"') then some c
        else quote
      let (current, following) := cutLine quote rest
      (c :: current, following)

/-- The text of the lines up to a delimiter, and the lines after that. -/
def takeHere (delimiter : List Char) (dropsTabs : Bool) :
    List (List Char) → List Char × List (List Char)
  | [] => ([], [])
  | line :: rest =>
    let line := if dropsTabs then line.dropWhile (· == '\t') else line
    if line = delimiter then ([], rest)
    else
      let (body, after) := takeHere delimiter dropsTabs rest
      ((if rest.isEmpty then line else line ++ ['\n']) ++ body, after)

/-- Cuts the lines up to a delimiter out of what follows the current line, and tells what follows
them. Marks keep the places of their ends, so that all that is left keeps its line number. -/
def cutHere (delimiter : List Char) (dropsTabs : Bool) (cs : List Char) :
    List Char × List Char × List Char :=
  match cutLine none cs with
  | (_, []) => ([], cs, [])
  | (current, _ :: following) =>
    let lines := following.splitOn '\n'
    let (body, after) := takeHere delimiter dropsTabs lines
    let taken := List.replicate (lines.length - max after.length 1) takenEnd
    let after := ['\n'].intercalate after
    (body, current ++ taken ++ '\n' :: after, after)

/-- The characters of a delimiter, and whether any of them is quoted. -/
def delimiterOf (w : Word) : List Char × Bool :=
  (w.flatMap fun f =>
    match f with
    | .literal text _ => text.toList
    | _ => [],
    w.any fun f =>
      match f with
      | .literal _ isQuoted => isQuoted
      | _ => false)

/-- The pipeline of some parts, last first. -/
def joinParts : List Command → Command
  | [c] => c
  | parts => .pipeline parts.reverse

end SnippetForge.Shell
