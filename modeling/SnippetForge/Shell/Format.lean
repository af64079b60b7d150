import SnippetForge.Number.Binary
import SnippetForge.Shell.Arithmetic
import SnippetForge.Text.Digits

/-!
# Writing words by a format

Words are written as they are, with escapes, or by a format whose conversions say how a word is
written: as text, as a whole number or as a number with a point, in a field of some width.
-/

namespace SnippetForge.Shell

/-! ### Escapes -/

/-- The octet of a number, which counts modulo 256. -/
def octet (n : Nat) : Char :=
  Char.ofNat (n % 256)

/-- The value of up to three octal digits, and what follows them. -/
def readOctal : (left : Nat) → (value : Nat) → List Char → Nat × List Char
  | left + 1, value, c :: rest =>
    if '0' ≤ c && c ≤ '7' then readOctal left (value * 8 + (c.toNat - 48)) rest
    else (value, c :: rest)
  | _, value, rest => (value, rest)

/-- The character that a letter after a backslash stands for. -/
def escapeOf? : Char → Option Char
  | 'n' => some '\n'
  | 't' => some '\t'
  | 'r' => some '\r'
  | 'a' => some (Char.ofNat 7)
  | 'b' => some (Char.ofNat 8)
  | 'e' => some (Char.ofNat 27)
  | 'f' => some (Char.ofNat 12)
  | 'v' => some (Char.ofNat 11)
  | '\\' => some '\\'
  | _ => none

/-- The character that the letters after a backslash stand for, and what follows them. A backslash
before other letters stands for itself. -/
def readEscape : List Char → Char × List Char
  | [] => ('\\', [])
  | c :: rest =>
    if '0' ≤ c && c ≤ '7' then
      let (value, rest) := readOctal 3 0 (c :: rest)
      (octet value, rest)
    else
      match escapeOf? c with
      | some escape => (escape, rest)
      | none => ('\\', c :: rest)

/-- The characters of a text with escapes, last first, and whether it is complete: a `c` after a
backslash ends it. An octal number may start with a zero more than its three digits. -/
def expandEscapes : Nat → List Char → (done : List Char) → List Char × Bool
  | 0, _, done => (done, true)
  | _ + 1, [], done => (done, true)
  | _ + 1, '\\' :: 'c' :: _, done => (done, false)
  | fuel + 1, '\\' :: '0' :: rest, done =>
    let (value, rest) := readOctal 3 0 rest
    expandEscapes fuel rest (octet value :: done)
  | fuel + 1, '\\' :: rest, done =>
    let (c, rest) := readEscape rest
    expandEscapes fuel rest (c :: done)
  | fuel + 1, c :: rest, done => expandEscapes fuel rest (c :: done)

/-- Writes words with escapes, as a shell does. -/
def echo (words : List String) : String :=
  let (line, words) :=
    match words with
    | "-n" :: rest => ("", rest)
    | words => ("\n", words)
  let text := " ".intercalate words
  let (done, isComplete) := expandEscapes (text.length + 1) text.toList []
  String.ofList done.reverse ++ (if isComplete then line else "")

/-! ### Fields -/

/-- How a word is written by a conversion. -/
structure Layout where
  isLeft : Bool
  hasZeros : Bool
  hasPlus : Bool
  hasSpace : Bool
  isAlternate : Bool
  width : Nat
  precision : Option Nat
  deriving DecidableEq, Repr

namespace Layout

/-- The layout without anything special. -/
def plain : Layout :=
  ⟨false, false, false, false, false, 0, none⟩

/-- A field that holds a text. -/
def field (layout : Layout) (text : String) : String :=
  let fill := String.ofList (List.replicate (layout.width - text.length) ' ')
  if layout.isLeft then text ++ fill else fill ++ text

/-- A field that holds a text of which at most as much is written as the precision says. -/
def cutField (layout : Layout) (text : String) : String :=
  match layout.precision with
  | some n => layout.field (String.ofList (text.toList.take n))
  | none => layout.field text

/-- A field that holds a number with a sign. Zeros that fill it stand after the sign. -/
def signedField (layout : Layout) (fillsZeros : Bool) (sign digits : String) : String :=
  if layout.hasZeros && !layout.isLeft && fillsZeros then
    sign ++ String.ofList (List.replicate (layout.width - sign.length - digits.length) '0')
      ++ digits
  else layout.field (sign ++ digits)

/-- The sign of a number. -/
def sign (layout : Layout) (isNegative : Bool) : String :=
  if isNegative then "-" else if layout.hasPlus then "+" else if layout.hasSpace then " " else ""

/-- Digits, at least as many as the precision says; a zero has none if that is zero. -/
def digits (layout : Layout) (base n : Nat) : String :=
  match layout.precision with
  | some 0 => if n = 0 then "" else String.ofList (Nat.toDigits base n)
  | some least =>
    let ds := Nat.toDigits base n
    String.ofList (List.replicate (least - ds.length) '0' ++ ds)
  | none => String.ofList (Nat.toDigits base n)

/-- A field that holds a signed number. -/
def integer (layout : Layout) (n : Int) : String :=
  layout.signedField layout.precision.isNone (layout.sign (n < 0)) (layout.digits 10 n.natAbs)

/-- A field that holds a number without a sign in the base that a letter names. -/
def unsigned (layout : Layout) (letter : Char) (n : Nat) : String :=
  let fills := layout.precision.isNone
  match letter with
  | 'x' =>
    layout.signedField fills (if layout.isAlternate && n != 0 then "0x" else "")
      (layout.digits 16 n)
  | 'X' =>
    layout.signedField fills (if layout.isAlternate && n != 0 then "0X" else "")
      (layout.digits 16 n).toUpper
  | 'o' =>
    let ds := layout.digits 8 n
    let lead := if layout.isAlternate && ds.toList.head? != some '0' then "0" else ""
    layout.signedField fills "" (lead ++ ds)
  | _ => layout.signedField fills "" (layout.digits 10 n)

/-- A field that holds a number with a point in the form that a letter names. -/
def binary (layout : Layout) (letter : Char) (a : Binary) : String :=
  let isFinite :=
    match a with
    | .finite _ _ _ => true
    | _ => false
  layout.signedField isFinite (layout.sign a.isNegative)
    (a.textAs letter layout.precision layout.isAlternate)

/-- Reads the flags of a conversion. -/
def readFlags : Layout → List Char → Layout × List Char
  | layout, '-' :: rest => readFlags { layout with isLeft := true } rest
  | layout, '0' :: rest => readFlags { layout with hasZeros := true } rest
  | layout, '+' :: rest => readFlags { layout with hasPlus := true } rest
  | layout, ' ' :: rest => readFlags { layout with hasSpace := true } rest
  | layout, '#' :: rest => readFlags { layout with isAlternate := true } rest
  | layout, rest => (layout, rest)

/-- A layout with a width; a negative one means the left side. -/
def withWidth (layout : Layout) (n : Int) : Layout :=
  { layout with isLeft := layout.isLeft || n < 0, width := n.natAbs }

/-- A layout with a precision; a negative one means none. -/
def withPrecision (layout : Layout) (n : Int) : Layout :=
  { layout with precision := if n < 0 then none else some n.toNat }

end Layout

/-! ### Numbers in words -/

/-- What is wrong with a word that is taken for a number. -/
inductive NumberFlaw
  | noNumber
  | partOnly
  | outOfRange
  deriving DecidableEq, Repr

/-- The words for a flaw. -/
def NumberFlaw.words : NumberFlaw → String
  | .noNumber => "expected numeric value"
  | .partOnly => "not completely converted"
  | .outOfRange => "Numerical result out of range"

/-- A complaint about a word: the word and its flaw. -/
abbrev WordComplaint := String × NumberFlaw

/-- A number that a word was taken for, and the complaint about that. -/
structure WordNumber (α : Type) where
  value : α
  complaint : Option WordComplaint

/-- The complaint about a word of which some characters are left, or that is out of range. -/
def conversionComplaint (word : String) (hasNumber : Bool) (rest : List Char)
    (isOutOfRange : Bool) : Option WordComplaint :=
  if !rest.isEmpty then some (word, if hasNumber then .partOnly else .noNumber)
  else if isOutOfRange then some (word, .outOfRange)
  else none

/-- The number of a character after a quotation mark. -/
def quotedNumber? (word : String) : Option Nat :=
  match word.toList with
  | '\'' :: rest => some ((rest.head?).map Char.toNat |>.getD 0)
  | '"' :: rest => some ((rest.head?).map Char.toNat |>.getD 0)
  | _ => none

/-- The whole number at the start of a word, if one is there, and what follows it. -/
def scanInteger (word : String) : Option Int × List Char :=
  let (isNegative, cs) :=
    match word.toList.dropWhile Arithmetic.isSpace with
    | '-' :: cs => (true, cs)
    | '+' :: cs => (false, cs)
    | cs => (false, cs)
  if (cs.head?).any Char.isDigit then
    let (n, rest) := Arithmetic.readNatural cs
    (some (if isNegative then -(n : Int) else n), rest)
  else (none, word.toList)

/-- The signed number that a word is taken for. -/
def signedNumber (word : String) : WordNumber Int :=
  match quotedNumber? word with
  | some n => ⟨n, none⟩
  | none =>
    let (value, rest) := scanInteger word
    let n := value.getD 0
    let isOut := Arithmetic.clamp n != n
    ⟨Arithmetic.clamp n, conversionComplaint word value.isSome rest isOut⟩

/-- The largest number without a sign. -/
def maxUnsigned : Nat := 18446744073709551615

/-- The number without a sign that a word is taken for. A negative one wraps. -/
def unsignedNumber (word : String) : WordNumber Nat :=
  match quotedNumber? word with
  | some n => ⟨n, none⟩
  | none =>
    let (value, rest) := scanInteger word
    let n := value.getD 0
    let isOut := maxUnsigned < n.natAbs
    ⟨if isOut then maxUnsigned else (BitVec.ofInt 64 n).toNat,
      conversionComplaint word value.isSome rest isOut⟩

/-- The number with a point that a word is taken for. -/
def binaryNumber (word : String) : WordNumber Binary :=
  match quotedNumber? word with
  | some n => ⟨.ofInt n, none⟩
  | none =>
    match Binary.read word.toList with
    | some s => ⟨s.value, conversionComplaint word true s.rest s.isOutOfRange⟩
    | none => ⟨.zero, conversionComplaint word false word.toList false⟩

/-! ### Formats -/

/-- What is wrong with a format. -/
inductive FormatFlaw
  /-- A conversion that does not exist, with its percent sign. -/
  | badDirective (text : String)
  /-- A conversion without a letter. -/
  | openDirective
  deriving DecidableEq, Repr

/-- The words for a flaw. -/
def FormatFlaw.words : FormatFlaw → String
  | .badDirective text => text ++ ": invalid directive"
  | .openDirective => "missing format character"

/-- What a format has written so far, last first, the words that are left, the complaints, and
whether it goes on. A format that is wrong ends with its flaw. -/
structure Formatted where
  done : List Char
  words : List String
  complaints : List WordComplaint
  isComplete : Bool
  flaw : Option FormatFlaw

namespace Formatted

/-- Writes some text. -/
def write (f : Formatted) (text : String) : Formatted :=
  { f with done := text.toList.reverse ++ f.done }

/-- Adds a complaint, if there is one. -/
def note (f : Formatted) (complaint : Option WordComplaint) : Formatted :=
  { f with complaints := f.complaints ++ complaint.toList }

/-- Ends because of a flaw. -/
def refuse (f : Formatted) (flaw : FormatFlaw) : Formatted :=
  { f with isComplete := false, flaw := some flaw }

/-- The next word as a number, zero if there is none. -/
def takeNumber (f : Formatted) : Int × Formatted :=
  match f.words with
  | [] => (0, f)
  | word :: rest =>
    let n := signedNumber word
    (n.value, { f with words := rest }.note n.complaint)

/-- Writes the next word by a conversion. -/
def convert (layout : Layout) (letter : Char) (f : Formatted) : Formatted :=
  let word := f.words.headD ""
  let rest := { f with words := f.words.drop 1 }
  match letter with
  | 's' => rest.write (layout.cutField word)
  | 'b' =>
    let (done, isComplete) := expandEscapes (word.length + 1) word.toList []
    { rest.write (layout.cutField (String.ofList done.reverse)) with isComplete := isComplete }
  | 'c' =>
    let c := (word.toList.head?).getD (Char.ofNat 0)
    rest.write (layout.field (String.singleton c))
  | letter =>
    if letter = 'd' || letter = 'i' then
      let n := signedNumber word
      (rest.note n.complaint).write (layout.integer n.value)
    else if ['u', 'o', 'x', 'X'].contains letter then
      let n := unsignedNumber word
      (rest.note n.complaint).write (layout.unsigned letter n.value)
    else
      let n := binaryNumber word
      (rest.note n.complaint).write (layout.binary letter n.value)

end Formatted

/-- The letters of the conversions. -/
def conversions : List Char :=
  "sbcdiuoxXaAeEfFgG".toList

/-- Reads what stands between the percent sign of a conversion and its letter. A star takes a number
from the words. -/
def readLayout (f : Formatted) (cs : List Char) : Layout × Formatted × List Char :=
  let (layout, cs) := Layout.plain.readFlags cs
  let (layout, f, cs) :=
    match cs with
    | '*' :: rest =>
      let (n, f) := f.takeNumber
      (layout.withWidth n, f, rest)
    | cs =>
      let digits := cs.takeWhile Char.isDigit
      ({ layout with width := Text.digitsValue digits }, f, cs.drop digits.length)
  match cs with
  | '.' :: '*' :: rest =>
    let (n, f) := f.takeNumber
    (layout.withPrecision n, f, rest)
  | '.' :: rest =>
    let digits := rest.takeWhile Char.isDigit
    ({ layout with precision := some (Text.digitsValue digits) }, f, rest.drop digits.length)
  | cs => (layout, f, cs)

/-- Writes a format once. -/
def formatOnce : Nat → List Char → Formatted → Formatted
  | 0, _, f => f
  | _ + 1, [], f => f
  | fuel + 1, c :: rest, f =>
    if !f.isComplete then f
    else if c = '\\' then
      let (c, rest) := readEscape rest
      formatOnce fuel rest { f with done := c :: f.done }
    else if c = '%' then
      match rest with
      | '%' :: rest => formatOnce fuel rest { f with done := '%' :: f.done }
      | rest =>
        let (layout, f, after) := readLayout f rest
        match after with
        | letter :: after =>
          if conversions.contains letter then formatOnce fuel after (f.convert layout letter)
          else
            let directive := '%' :: rest.take (rest.length - after.length)
            f.refuse (.badDirective (String.ofList directive))
        | [] => f.refuse .openDirective
    else formatOnce fuel rest { f with done := c :: f.done }

/-- Writes words by a format, over and over until all are used. -/
def formatWords (format : String) : Nat → Formatted → Formatted
  | 0, f => f
  | fuel + 1, f =>
    let next := formatOnce (format.length + 1) format.toList f
    if next.words.isEmpty || next.words.length = f.words.length || !next.isComplete then next
    else formatWords format fuel next

/-- Writes words by a format. -/
def printf (format : String) (words : List String) : Formatted :=
  formatWords format (words.length + 1) ⟨[], words, [], true, none⟩

/-- What a format has written. -/
def Formatted.text (f : Formatted) : String :=
  String.ofList f.done.reverse

end SnippetForge.Shell
