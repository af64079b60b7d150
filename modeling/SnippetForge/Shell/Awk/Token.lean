import SnippetForge.Shell.Awk.Syntax
import SnippetForge.Shell.Format

/-!
# Tokens of programs for records

A program is cut into tokens: constants, names, words and marks. A slash starts a pattern where an
operand is expected and divides elsewhere. Marks that close more than was opened are left out and
told.
-/

namespace SnippetForge.Shell.Awk

/-- A token. -/
inductive Token
  | number (n : Binary)
  | text (s : String)
  | regex (source : List Char)
  | name (name : String)
  /-- A name right before a parenthesis. -/
  | call (name : String)
  | builtin (b : Builtin)
  | word (word : String)
  | mark (mark : String)
  | newline
  deriving Repr

/-- A token with its line and with the text that tells where it is. -/
structure Lexeme where
  token : Token
  line : Nat
  shown : String
  deriving Repr

/-- Something wrong with a program: the line, and what is said. -/
structure Complaint where
  line : Nat
  text : String
  deriving DecidableEq, Repr

/-- Characters that start no token, with their lines. -/
abbrev Strangers := List (Nat × Char)

/-- The words that are no names. -/
def keywords : List String :=
  ["BEGIN", "END", "function", "if", "else", "while", "for", "do", "break", "continue", "next",
    "nextfile", "exit", "return", "delete", "in", "getline", "print", "printf"]

/-- The functions that are there without being defined, by their names. -/
def builtins : List (String × Builtin) :=
  [("length", .length), ("index", .index), ("substr", .substr), ("split", .split),
    ("match", .matches), ("sub", .sub), ("gsub", .gsub), ("sprintf", .sprintf), ("sin", .sin),
    ("cos", .cos), ("atan2", .atan2), ("exp", .exp), ("log", .log), ("sqrt", .sqrt),
    ("int", .int), ("rand", .rand), ("srand", .srand), ("tolower", .toLower),
    ("toupper", .toUpper), ("system", .system), ("close", .close), ("fflush", .flush),
    ("systime", .systemTime), ("strftime", .timeText), ("mktime", .timeOf)]

/-- The marks, those that start with another one first. -/
def marks : List String :=
  ["&&", "||", "++", "--", "+=", "-=", "*=", "/=", "%=", "^=", "==", "<=", ">=", "!=", "!~", ">>",
    "+", "-", "*", "/", "%", "^", "!", ">", "<", "|", "?", ":", "~", "$", "=", ",", ";", "(", ")",
    "\x7b", "\x7d", "[", "]"]

/-- Whether a token ends an operand, so that a slash after it divides. -/
def Token.endsOperand : Token → Bool
  | .number _ => true
  | .text _ => true
  | .regex _ => true
  | .name _ => true
  | .builtin _ => true
  | .mark m => [")", "]", "$", "++", "--"].contains m
  | _ => false

/-- Whether a character can be part of a name. -/
def isNamePart (c : Char) : Bool :=
  c.isAlphanum || c == '_'

/-- Reads the rest of a text constant. None if it does not end. -/
def readText : Nat → List Char → (done : List Char) → Option (List Char × List Char)
  | 0, _, _ => none
  | _ + 1, [], _ => none
  | _ + 1, '\n' :: _, _ => none
  | _ + 1, '"' :: rest, done => some (done.reverse, rest)
  | fuel + 1, '\\' :: '\n' :: rest, done => readText fuel rest done
  | fuel + 1, '\\' :: '"' :: rest, done => readText fuel rest ('"' :: done)
  | fuel + 1, '\\' :: 'x' :: c :: rest, done =>
    match Binary.hexDigit? c with
    | none => readText fuel (c :: rest) ('x' :: '\\' :: done)
    | some n =>
      match rest with
      | d :: more =>
        match Binary.hexDigit? d with
        | some k => readText fuel more (octet (n * 16 + k) :: done)
        | none => readText fuel rest (octet n :: done)
      | [] => none
  | fuel + 1, '\\' :: c :: rest, done =>
    if '0' ≤ c && c ≤ '7' then
      let (value, rest) := readOctal 3 0 (c :: rest)
      readText fuel rest (octet value :: done)
    else
      match c, escapeOf? c with
      | 'e', _ => readText fuel rest ('e' :: '\\' :: done)
      | _, some escape => readText fuel rest (escape :: done)
      | _, none => readText fuel rest (c :: '\\' :: done)
  | fuel + 1, c :: rest, done => readText fuel rest (c :: done)

/-- Reads the rest of a pattern. A slash in a set does not end it. None if it does not end. -/
def readRegex : Nat → (inSet : Bool) → List Char → (done : List Char) →
    Option (List Char × List Char)
  | 0, _, _, _ => none
  | _ + 1, _, [], _ => none
  | _ + 1, _, '\n' :: _, _ => none
  | _ + 1, false, '/' :: rest, done => some (done.reverse, rest)
  | fuel + 1, inSet, '\\' :: '/' :: rest, done => readRegex fuel inSet rest ('/' :: done)
  | fuel + 1, inSet, '\\' :: c :: rest, done => readRegex fuel inSet rest (c :: '\\' :: done)
  | fuel + 1, false, '[' :: '^' :: ']' :: rest, done =>
    readRegex fuel true rest (']' :: '^' :: '[' :: done)
  | fuel + 1, false, '[' :: ']' :: rest, done => readRegex fuel true rest (']' :: '[' :: done)
  | fuel + 1, false, '[' :: rest, done => readRegex fuel true rest ('[' :: done)
  | fuel + 1, true, '[' :: ':' :: rest, done =>
    match Expression.readNamed ':' rest with
    | some (name, rest) =>
      readRegex fuel true rest (']' :: ':' :: name.reverse ++ ':' :: '[' :: done)
    | none => readRegex fuel true (':' :: rest) ('[' :: done)
  | fuel + 1, true, ']' :: rest, done => readRegex fuel false rest (']' :: done)
  | fuel + 1, inSet, c :: rest, done => readRegex fuel inSet rest (c :: done)

/-- What is open while a program is cut: the line, how many parentheses and braces, and the token
before. -/
structure Cutting where
  line : Nat
  parentheses : Nat
  braces : Nat
  before : Option Token

/-- What a program is cut into. -/
structure Cut where
  lexemes : List Lexeme
  /-- What is told though reading goes on. -/
  extras : List Complaint
  /-- Characters that are left out. -/
  strangers : Strangers
  /-- What ends the reading. -/
  flaw : Option Complaint
  /-- How many braces are open at the end, and the line there. -/
  openBraces : Nat
  lastLine : Nat

/-- A cut with one more token at the front. -/
def Cut.push (x : Lexeme) (k : Cut) : Cut :=
  { k with lexemes := x :: k.lexemes }

/-- The end of a program that cannot be cut further. -/
def Cut.fails (s : Cutting) (text : String) : Cut :=
  ⟨[], [], [], some ⟨s.line, text⟩, s.braces, s.line⟩

/-- The word for a name. -/
def wordToken (name : String) (isCall : Bool) : Token :=
  if keywords.contains name then .word name
  else
    match builtins.lookup name with
    | some b => .builtin b
    | none => if isCall then .call name else .name name

/-- The least number that is written in programs. -/
def leastNumber : Binary :=
  .finite false (Binary.mantissaBound / 2) Binary.minExponent

/-- The number at the start of some characters, and whether it is out of range. -/
def readNumber (cs : List Char) : Option (Binary × Bool × List Char) :=
  match Binary.readPointed Char.isDigit cs with
  | none => none
  | some (digits, places, rest) =>
    let (exponent, rest) := Binary.readExponent ['e', 'E'] rest
    let n := Binary.digitsIn 10 digits
    let value := Binary.scaled false n digits.length Binary.powerOfTen (exponent - places)
    some (value, n != 0 && (value.lt leastNumber || leastNumber.div value == .zero), rest)

/-- Cuts a program into tokens. -/
def cut : (fuel : Nat) → Cutting → List Char → Cut
  | 0, s, _ => ⟨[], [], [], none, s.braces, s.line⟩
  | _ + 1, s, [] => ⟨[⟨.newline, s.line, "end of line"⟩], [], [], none, s.braces, s.line + 1⟩
  | fuel + 1, s, '\\' :: '\n' :: rest => cut fuel { s with line := s.line + 1 } rest
  | fuel + 1, s, '\n' :: rest =>
    (cut fuel { s with line := s.line + 1, before := some .newline } rest).push
      ⟨.newline, s.line, "end of line"⟩
  | fuel + 1, s, '#' :: rest => cut fuel s (rest.dropWhile (· != '\n'))
  | fuel + 1, s, '"' :: rest =>
    match readText (rest.length + 1) rest [] with
    | some (cs, after) =>
      let lines := ((rest.take (rest.length - after.length)).filter (· == '\n')).length
      let token := Token.text (String.ofList cs)
      (cut fuel { s with line := s.line + lines, before := some token } after).push
        ⟨token, s.line, "\"" ++ String.ofList cs ++ "\""⟩
    | none =>
      let start := rest.takeWhile (· != '\n')
      Cut.fails s ("runaway string constant \"" ++ String.ofList (start.take 10) ++ " ...")
  | fuel + 1, s, c :: rest =>
    let wantsOperand := !(s.before.any Token.endsOperand)
    let put (token : Token) (shown : String) (rest : List Char) (s : Cutting) : Cut :=
      (cut fuel { s with before := some token } rest).push ⟨token, s.line, shown⟩
    let skip (text : String) (rest : List Char) : Cut :=
      let k := cut fuel s rest
      { k with extras := ⟨s.line, text⟩ :: k.extras }
    if c = ' ' || c = '\t' || c = '\r' || c = '\x0c' || c = '\x0b' then cut fuel s rest
    else if c.isAlpha || c = '_' then
      let name := String.ofList (c :: rest.takeWhile isNamePart)
      let after := rest.dropWhile isNamePart
      put (wordToken name (after.head? == some '(')) name after s
    else if c = '/' && wantsOperand then
      match readRegex (rest.length + 1) false rest [] with
      | some (source, after) =>
        put (.regex source) ("/" ++ String.ofList source ++ "/") after s
      | none =>
        let start := rest.takeWhile (· != '\n')
        Cut.fails s ("runaway regular expression /" ++ String.ofList (start.take 10) ++ " ...")
    else
      match readNumber (c :: rest) with
      | some (value, isOut, after) =>
        let spelled := String.ofList ((c :: rest).take (rest.length + 1 - after.length))
        if isOut then Cut.fails s (spelled ++ " : decimal overflow")
        else put (.number value) spelled after s
      | none =>
        match marks.find? fun m => m.toList.isPrefixOf (c :: rest) with
        | none =>
          let k := cut fuel s rest
          { k with strangers := (s.line, c) :: k.strangers }
        | some m =>
          let after := (c :: rest).drop m.length
          match c with
          | '(' => put (.mark m) m after { s with parentheses := s.parentheses + 1 }
          | ')' =>
            if s.parentheses = 0 then skip "extra ')'" after
            else put (.mark m) m after { s with parentheses := s.parentheses - 1 }
          | '\x7b' => put (.mark m) m after { s with braces := s.braces + 1 }
          | '\x7d' =>
            if s.braces = 0 then
              let k := skip "extra '\x7d'" after
              let next := after.dropWhile fun c => c == ' ' || c == '\t'
              if next.isEmpty || next.head? == some '\n' then
                let flaw := ⟨s.line, "syntax error at or near end of line"⟩
                { k with flaw := some flaw, extras := k.extras.take 1 }
              else k
            else put (.mark m) m after { s with braces := s.braces - 1 }
          | _ => put (.mark m) m after s

end SnippetForge.Shell.Awk
