import SnippetForge.Json.Basic
import SnippetForge.Text.Hex

/-!
# Reading JSON

A recursive reader over the remaining characters. Every function takes the characters that are
left and answers with what it read and what is left after it, or with nothing if the characters
do not start with what it looks for. White space is the four characters space, tab, line feed and
carriage return, and may stand before and after every value.

A string is read in two steps: its pieces first, characters and sixteen-bit units, and then the
text they denote. The first step alone decides whether the literal is well formed.

The readers of values take fuel. A value needs at most two steps a character, so the fuel that
`parse?` hands out never runs short.
-/

namespace SnippetForge.Json

/-! ### White space -/

/-- The white space of JSON. -/
def isSpace (c : Char) : Bool :=
  c == ' ' || c == '\t' || c == '\n' || c == '\r'

/-- The characters after the white space. -/
def skipSpace (cs : List Char) : List Char :=
  cs.dropWhile isSpace

/-! ### Strings -/

/-- A piece of a string literal. -/
inductive Piece
  /-- A character, standing for itself or escaped by a letter. -/
  | char (c : Char)
  /-- A sixteen-bit unit, escaped by its number. -/
  | unit (n : Nat)
  deriving DecidableEq, Repr

/-- The character that a letter after a backslash stands for. -/
def escaped? (c : Char) : Option Char :=
  if c = '"' then some '"'
  else if c = '\\' then some '\\'
  else if c = '/' then some '/'
  else if c = 'b' then some (Char.ofNat 0x08)
  else if c = 'f' then some (Char.ofNat 0x0C)
  else if c = 'n' then some '\n'
  else if c = 'r' then some '\r'
  else if c = 't' then some '\t'
  else none

/-- The number that four hexadecimal digits spell. -/
def unit? (a b c d : Char) : Option Nat :=
  match Text.hexValue? a, Text.hexValue? b, Text.hexValue? c, Text.hexValue? d with
  | some a, some b, some c, some d => some (a * 4096 + b * 256 + c * 16 + d)
  | _, _, _, _ => none

/-- Reads the pieces of a string after its opening quote. `done` holds the pieces so far, last
first. -/
def scanPieces : List Char → (done : List Piece) → Option (List Piece × List Char)
  | [], _ => none
  | '"' :: rest, done => some (done.reverse, rest)
  | '\\' :: 'u' :: a :: b :: c :: d :: rest, done =>
    match unit? a b c d with
    | some n => scanPieces rest (.unit n :: done)
    | none => none
  | '\\' :: e :: rest, done =>
    match escaped? e with
    | some c => scanPieces rest (.char c :: done)
    | none => none
  | c :: rest, done =>
    if c = '\\' ∨ c.toNat < 0x20 then none else scanPieces rest (.char c :: done)

/-- Whether a unit is the first half of a pair. -/
def isHigh (n : Nat) : Bool :=
  0xD800 ≤ n && n ≤ 0xDBFF

/-- Whether a unit is the second half of a pair. -/
def isLow (n : Nat) : Bool :=
  0xDC00 ≤ n && n ≤ 0xDFFF

/-- The characters that pieces denote, if every surrogate has its partner. `done` holds the
characters so far, last first. -/
def denote : List Piece → (done : List Char) → Option (List Char)
  | [], done => some done.reverse
  | .char c :: rest, done => denote rest (c :: done)
  | .unit high :: .unit low :: rest, done =>
    if isHigh high then
      if isLow low then
        denote rest (Char.ofNat (0x10000 + (high - 0xD800) * 0x400 + (low - 0xDC00)) :: done)
      else none
    else if isLow high then none
    else denote (.unit low :: rest) (Char.ofNat high :: done)
  | .unit n :: rest, done =>
    if isHigh n || isLow n then none else denote rest (Char.ofNat n :: done)

/-- The literal that pieces spell. -/
def literalOf (pieces : List Piece) : Literal :=
  match denote pieces [] with
  | some cs => .text (String.ofList cs)
  | none => .unpaired

/-- Reads a string after its opening quote. -/
def readLiteral (cs : List Char) : Option (Literal × List Char) :=
  (scanPieces cs []).map fun p => (literalOf p.1, p.2)

/-! ### Numbers -/

/-- Reads at least one digit. -/
def readDigits (cs : List Char) : Option (List Char × List Char) :=
  match cs.takeWhile Char.isDigit with
  | [] => none
  | digits => some (digits, cs.dropWhile Char.isDigit)

/-- Reads the whole part of a number: a zero, or digits that do not start with one. -/
def readWhole : List Char → Option (List Char × List Char)
  | '0' :: rest => some (['0'], rest)
  | cs => readDigits cs

/-- Reads the fraction of a number, if one is there. -/
def readFraction : List Char → Option (List Char × List Char)
  | '.' :: rest => (readDigits rest).map fun p => ('.' :: p.1, p.2)
  | cs => some ([], cs)

/-- Reads the digits of an exponent after its sign. -/
def readExponentDigits (mark : List Char) (cs : List Char) : Option (List Char × List Char) :=
  (readDigits cs).map fun p => (mark ++ p.1, p.2)

/-- Reads the exponent of a number, if one is there. -/
def readExponent : List Char → Option (List Char × List Char)
  | [] => some ([], [])
  | e :: rest =>
    if e = 'e' ∨ e = 'E' then
      match rest with
      | '+' :: digits => readExponentDigits [e, '+'] digits
      | '-' :: digits => readExponentDigits [e, '-'] digits
      | digits => readExponentDigits [e] digits
    else some ([], e :: rest)

/-- Reads a number without its sign. -/
def readMagnitude (cs : List Char) : Option (List Char × List Char) :=
  match readWhole cs with
  | none => none
  | some (whole, rest) =>
    match readFraction rest with
    | none => none
    | some (fraction, rest) =>
      (readExponent rest).map fun p => (whole ++ fraction ++ p.1, p.2)

/-- Reads a number. -/
def readNumber : List Char → Option (List Char × List Char)
  | '-' :: rest => (readMagnitude rest).map fun p => ('-' :: p.1, p.2)
  | cs => readMagnitude cs

/-! ### Values -/

mutual

/-- Reads a value and the white space before it. -/
def readValue : Nat → List Char → Option (Json × List Char)
  | 0, _ => none
  | fuel + 1, cs =>
    match skipSpace cs with
    | '"' :: rest => (readLiteral rest).map fun p => (.string p.1, p.2)
    | '[' :: rest =>
      match skipSpace rest with
      | ']' :: rest => some (.array [], rest)
      | rest => readItems fuel rest []
    | '\x7b' :: rest =>
      match skipSpace rest with
      | '\x7d' :: rest => some (.object [], rest)
      | rest => readMembers fuel rest []
    | 'n' :: 'u' :: 'l' :: 'l' :: rest => some (.null, rest)
    | 't' :: 'r' :: 'u' :: 'e' :: rest => some (.bool true, rest)
    | 'f' :: 'a' :: 'l' :: 's' :: 'e' :: rest => some (.bool false, rest)
    | rest => (readNumber rest).map fun p => (.number (String.ofList p.1), p.2)

/-- Reads the items of an array up to its closing bracket. `done` holds the items so far, last
first. -/
def readItems : Nat → List Char → (done : List Json) → Option (Json × List Char)
  | 0, _, _ => none
  | fuel + 1, cs, done =>
    match readValue fuel cs with
    | none => none
    | some (v, rest) =>
      match skipSpace rest with
      | ',' :: rest => readItems fuel rest (v :: done)
      | ']' :: rest => some (.array (v :: done).reverse, rest)
      | _ => none

/-- Reads the members of an object up to its closing brace. `done` holds the members so far, last
first. -/
def readMembers : Nat → List Char → (done : List (Literal × Json)) → Option (Json × List Char)
  | 0, _, _ => none
  | fuel + 1, cs, done =>
    match skipSpace cs with
    | '"' :: rest =>
      match readLiteral rest with
      | none => none
      | some (key, rest) =>
        match skipSpace rest with
        | ':' :: rest =>
          match readValue fuel rest with
          | none => none
          | some (v, rest) =>
            match skipSpace rest with
            | ',' :: rest => readMembers fuel rest ((key, v) :: done)
            | '\x7d' :: rest => some (.object ((key, v) :: done).reverse, rest)
            | _ => none
        | _ => none
    | _ => none

end

/-- The fuel that reading some characters may need. -/
def fuelFor (cs : List Char) : Nat :=
  2 * cs.length + 2

/-- The value that characters spell, if they spell exactly one. -/
def parseChars? (cs : List Char) : Option Json :=
  match readValue (fuelFor cs) cs with
  | some (v, rest) => if skipSpace rest = [] then some v else none
  | none => none

/-- The value that a text spells, if it spells exactly one. -/
def parse? (s : String) : Option Json :=
  parseChars? s.toList

end SnippetForge.Json
