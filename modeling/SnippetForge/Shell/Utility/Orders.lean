import SnippetForge.Text.Digits
import SnippetForge.Text.Hex

/-!
# Orders of texts

Ways in which texts are compared other than by their characters: by the number they start with, plain
or with a letter for its size or of any magnitude, by the month they name, and by versions, in which
runs of digits count as numbers.
-/

namespace SnippetForge.Shell.Utility

/-- Whether a character is a blank. -/
def isGap (c : Char) : Bool :=
  c == ' ' || c == '\t'

/-- Whether a character is a blank or a line end. -/
def isBreak (c : Char) : Bool :=
  isGap c || c == '\n'

/-- Compares two lists of characters by their numbers. -/
def compareChars : List Char → List Char → Ordering
  | [], [] => .eq
  | [], _ :: _ => .lt
  | _ :: _, [] => .gt
  | a :: as, b :: bs => if a < b then .lt else if b < a then .gt else compareChars as bs

/-! ### Numbers -/

/-- The sign, the digits before the point and the digits after it at the start of a text. -/
structure LeadingDigits where
  isNegative : Bool
  whole : List Char
  fraction : List Char

/-- The number at the start of a text after blanks. -/
def leadingDigits (cs : List Char) : LeadingDigits :=
  let cs := cs.dropWhile isBreak
  let (isNegative, cs) : Bool × List Char :=
    match cs with
    | '-' :: rest => (true, rest)
    | cs => (false, cs)
  let whole := cs.takeWhile Char.isDigit
  let fraction : List Char :=
    match cs.drop whole.length with
    | '.' :: rest => rest.takeWhile Char.isDigit
    | _ => []
  ⟨isNegative, whole, fraction⟩

/-- The value of leading digits in units of a decimal place. -/
def LeadingDigits.units (d : LeadingDigits) (places : Nat) : Int :=
  let fraction := d.fraction ++ List.replicate (places - d.fraction.length) '0'
  let n : Int := Text.digitsValue (d.whole ++ fraction)
  if d.isNegative then -n else n

/-- Compares two texts by the numbers at their starts. -/
def compareNumbers (a b : List Char) : Ordering :=
  let a := leadingDigits a
  let b := leadingDigits b
  let places := max a.fraction.length b.fraction.length
  compare (a.units places) (b.units places)

/-- The letters for sizes, in order. -/
def sizeLetters : List Char :=
  ['K', 'M', 'G', 'T', 'P', 'E', 'Z', 'Y', 'R', 'Q']

/-- The size that the letter after the number at the start of a text stands for. -/
def sizeRank (cs : List Char) : Int :=
  let d := leadingDigits cs
  let all := d.whole ++ d.fraction
  if all.all (· == '0') then 0
  else
    let body := (cs.dropWhile isBreak).drop (if d.isNegative then 1 else 0)
    let rest := body.drop d.whole.length
    let rest : List Char :=
      match rest with
      | '.' :: more => more.drop d.fraction.length
      | more => more
    let letter := rest.headD ' '
    let rank : Int := sizeLetters.idxOf (if letter = 'k' then 'K' else letter)
    let rank := if rank < sizeLetters.length then rank + 1 else 0
    if d.isNegative then -rank else rank

/-- Compares two texts by the sizes at their starts. -/
def compareSizes (a b : List Char) : Ordering :=
  match compare (sizeRank a) (sizeRank b) with
  | .eq => compareNumbers a b
  | ordering => ordering

/-! ### Numbers of any magnitude -/

/-- A number as it is written, or what stands for none. The value is a whole number times a power of
ten and one of two. -/
inductive Magnitude
  | absent
  | undefined
  | negativeInfinity
  | value (n : Int) (tens twos : Int)
  | infinity
  deriving DecidableEq, Repr

/-- The exponent after a letter, with how many characters it takes. -/
def exponentAfter (letter : Char) (cs : List Char) : Int :=
  match cs with
  | c :: rest =>
    if c.toLower != letter then 0
    else
      match rest with
      | '-' :: digits => -(Text.digitsValue (digits.takeWhile Char.isDigit) : Int)
      | '+' :: digits => Text.digitsValue (digits.takeWhile Char.isDigit)
      | digits => Text.digitsValue (digits.takeWhile Char.isDigit)
  | [] => 0

/-- Whether a text starts with a word, in letters of either case. -/
def startsWithWord (word : String) (cs : List Char) : Bool :=
  word.toList.isPrefixOf (cs.map Char.toLower)

/-- The value of hexadecimal digits. -/
def hexDigitsValue (cs : List Char) : Nat :=
  cs.foldl (fun n c => n * 16 + (Text.hexValue? c).getD 0) 0

/-- The number at the start of a text, in any notation. -/
def magnitudeOf (cs : List Char) : Magnitude :=
  let cs := cs.dropWhile fun c => isBreak c || (10 < c.toNat && c.toNat < 14)
  let (isNegative, cs) : Bool × List Char :=
    match cs with
    | '-' :: rest => (true, rest)
    | '+' :: rest => (false, rest)
    | cs => (false, cs)
  let signed (n : Nat) (tens twos : Int) : Magnitude :=
    .value (if isNegative then -(n : Int) else n) tens twos
  if startsWithWord "inf" cs then if isNegative then .negativeInfinity else .infinity
  else if startsWithWord "nan" cs then .undefined
  else
    let isHex (c : Char) : Bool := (Text.hexValue? c).isSome
    let hex? : Option Magnitude :=
      match cs with
      | '0' :: x :: rest =>
        if x.toLower != 'x' then none
        else
          let whole := rest.takeWhile isHex
          let (fraction, left) : List Char × List Char :=
            match rest.drop whole.length with
            | '.' :: more => (more.takeWhile isHex, more.dropWhile isHex)
            | left => ([], left)
          if (whole ++ fraction).isEmpty then none
          else
            some (signed (hexDigitsValue (whole ++ fraction)) 0
              (exponentAfter 'p' left - 4 * fraction.length))
      | _ => none
    match hex? with
    | some m => m
    | none =>
      let whole := cs.takeWhile Char.isDigit
      let (fraction, left) : List Char × List Char :=
        match cs.drop whole.length with
        | '.' :: more => (more.takeWhile Char.isDigit, more.dropWhile Char.isDigit)
        | left => ([], left)
      if (whole ++ fraction).isEmpty then .absent
      else
        signed (Text.digitsValue (whole ++ fraction)) (exponentAfter 'e' left - fraction.length) 0

/-- The place of a magnitude among those that are no plain values. -/
def Magnitude.rank : Magnitude → Nat
  | .absent => 0
  | .undefined => 1
  | .negativeInfinity => 2
  | .value _ _ _ => 3
  | .infinity => 4

/-- The largest exponent that is reckoned with. -/
def largestExponent : Nat := 5000

/-- A base to a power that may not be too large. -/
def powerOf (base : Nat) (n : Int) : Int :=
  (List.replicate (min n.toNat largestExponent) (base : Int)).foldl (· * ·) 1

/-- Compares two magnitudes. -/
def Magnitude.compare (a b : Magnitude) : Ordering :=
  match a, b with
  | .value m t2 u2, .value n t3 u3 =>
    let tens := min t2 t3
    let twos := min u2 u3
    Ord.compare (m * powerOf 10 (t2 - tens) * powerOf 2 (u2 - twos))
      (n * powerOf 10 (t3 - tens) * powerOf 2 (u3 - twos))
  | a, b => Ord.compare a.rank b.rank

/-- Compares two texts by the numbers at their starts, in any notation. -/
def compareMagnitudes (a b : List Char) : Ordering :=
  (magnitudeOf a).compare (magnitudeOf b)

/-! ### Months -/

/-- The starts of the names of the months. -/
def monthStarts : List String :=
  ["jan", "feb", "mar", "apr", "may", "jun", "jul", "aug", "sep", "oct", "nov", "dec"]

/-- The number of the month that a text starts with. -/
def monthRank (cs : List Char) : Nat :=
  let cs := cs.dropWhile isBreak
  let n := monthStarts.findIdx fun name => startsWithWord name cs
  if n < monthStarts.length then n + 1 else 0

/-! ### Versions -/

/-- The rank of a character of a version that is no digit; the end of the version and digits have
ranks too. -/
def versionRank : Option Char → Int
  | none => -1
  | some c =>
    if c.isDigit then 0
    else if c.isAlpha then c.toNat
    else if c = '~' then -2
    else c.toNat + 256

/-- Compares the parts of two versions up to their next digits; gives what is left of them if these
are equal. -/
def compareMarks : (fuel : Nat) → List Char → List Char → Ordering × List Char × List Char
  | 0, as, bs => (.eq, as, bs)
  | fuel + 1, as, bs =>
    let isMark (cs : List Char) : Bool := cs.head?.any fun c => !c.isDigit
    if isMark as || isMark bs then
      match compare (versionRank as.head?) (versionRank bs.head?) with
      | .eq => compareMarks fuel (as.drop 1) (bs.drop 1)
      | ordering => (ordering, as, bs)
    else (.eq, as, bs)

/-- Compares two versions part by part. -/
def compareParts : (fuel : Nat) → List Char → List Char → Ordering
  | 0, _, _ => .eq
  | fuel + 1, as, bs =>
    if as.isEmpty && bs.isEmpty then .eq
    else
      match compareMarks (as.length + bs.length + 1) as bs with
      | (.eq, as, bs) =>
        let m := as.takeWhile Char.isDigit
        let n := bs.takeWhile Char.isDigit
        match compare (Text.digitsValue m) (Text.digitsValue n) with
        | .eq => compareParts fuel (as.drop m.length) (bs.drop n.length)
        | ordering => ordering
      | (ordering, _, _) => ordering

/-- Whether some characters are the endings of a file name: points, each with a letter and others
after it. -/
def areEndings : (fuel : Nat) → List Char → Bool
  | 0, _ => false
  | _ + 1, [] => true
  | fuel + 1, '.' :: c :: rest =>
    (c.isAlpha || c == '~')
      && areEndings fuel (rest.dropWhile fun c => c.isAlphanum || c == '~')
  | _ + 1, _ => false

/-- A name without its endings; its first character is no part of one. -/
def withoutEndings (cs : List Char) : List Char :=
  let size := (List.range cs.length).find? fun n =>
    areEndings (cs.length + 1) (cs.drop (n + 1))
  cs.take ((size.getD cs.length) + 1)

/-- The rank of names that come before all others: none, one point, two points, and all that start
with a point. -/
def pointRank : List Char → Nat
  | [] => 0
  | ['.'] => 1
  | ['.', '.'] => 2
  | '.' :: _ => 3
  | _ => 4

/-- Compares two names as versions. -/
def compareVersions (a b : List Char) : Ordering :=
  match compare (pointRank a) (pointRank b) with
  | .eq =>
    let fuel := a.length + b.length + 1
    match compareParts fuel (withoutEndings a) (withoutEndings b) with
    | .eq => compareParts fuel a b
    | ordering => ordering
  | ordering => ordering

end SnippetForge.Shell.Utility
