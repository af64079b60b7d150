/-!
# Binary numbers of 64 bits

Numbers with a binary point that have 53 significant bits and a bounded exponent, or are infinite,
or no number at all. A finite number is a whole number times a power of two, so it is a ratio, and
each operation is the ratio of its exact result, rounded once to the nearest number; of two nearest
ones, to the even one. The same rounding writes a number in decimal digits.
-/

namespace SnippetForge

/-- A number of 64 bits. -/
inductive Binary
  /-- A whole number times a power of two. -/
  | finite (isNegative : Bool) (mantissa : Nat) (exponent : Int)
  | infinite (isNegative : Bool)
  | nan
  deriving DecidableEq, Repr

namespace Binary

/-! ### Ratios -/

/-- The quotient rounded to the nearest whole number, a tie to the even one. -/
def roundDiv (num den : Nat) : Nat :=
  let q := num / den
  let r := num % den
  if 2 * r < den then q
  else if den < 2 * r then q + 1
  else if q % 2 = 0 then q else q + 1

/-- A power of two. -/
def powerOfTwo (n : Nat) : Nat :=
  Nat.shiftLeft 1 n

/-- A power of ten. -/
def powerOfTen (n : Nat) : Nat :=
  Nat.pow 10 n

/-- The smallest exponent. -/
def minExponent : Int := -1074

/-- The largest exponent. -/
def maxExponent : Int := 971

/-- The mantissas are below this number. -/
def mantissaBound : Nat := 9007199254740992

/-- Zero. -/
def zero : Binary := .finite false 0 0

/-- The rounded ratio in units of a power of two. -/
def inUnits (num den : Nat) (exponent : Int) : Nat :=
  if 0 ≤ exponent then roundDiv num (den * powerOfTwo exponent.toNat)
  else roundDiv (num * powerOfTwo (-exponent).toNat) den

/-- The number nearest to a ratio. -/
def ofRatio (isNegative : Bool) (num den : Nat) : Binary :=
  if num = 0 then .finite isNegative 0 0
  else
    let guess : Int := (Nat.log2 num : Int) - (Nat.log2 den : Int) - 53
    let guess := max guess minExponent
    let exponent := if inUnits num den guess < mantissaBound then guess else guess + 1
    let exponent := if inUnits num den exponent < mantissaBound then exponent else exponent + 1
    let mantissa := inUnits num den exponent
    if maxExponent < exponent then .infinite isNegative else .finite isNegative mantissa exponent

/-- The number nearest to a whole number. -/
def ofInt (n : Int) : Binary :=
  ofRatio (n < 0) n.natAbs 1

/-- The size of a finite number as a ratio. -/
def ratio (mantissa : Nat) (exponent : Int) : Nat × Nat :=
  if 0 ≤ exponent then (mantissa * powerOfTwo exponent.toNat, 1)
  else (mantissa, powerOfTwo (-exponent).toNat)

/-- Whether a number has a minus sign. -/
def isNegative : Binary → Bool
  | .finite s _ _ => s
  | .infinite s => s
  | .nan => false

/-- The signed ratio of a finite number. -/
def signedRatio? : Binary → Option (Int × Nat)
  | .finite s m e =>
    let (num, den) := ratio m e
    some (if s then -(num : Int) else (num : Int), den)
  | _ => none

/-! ### Arithmetic -/

/-- The opposite number. -/
def neg : Binary → Binary
  | .finite s m e => .finite (!s) m e
  | .infinite s => .infinite (!s)
  | .nan => .nan

/-- The number nearest to a signed ratio. -/
def ofSigned (num : Int) (den : Nat) : Binary :=
  ofRatio (num < 0) num.natAbs den

/-- The sum. -/
def add (a b : Binary) : Binary :=
  match a, b with
  | .nan, _ => .nan
  | _, .nan => .nan
  | .infinite s, .infinite t => if s = t then .infinite s else .nan
  | .infinite s, _ => .infinite s
  | _, .infinite s => .infinite s
  | .finite s 0 _, .finite t 0 _ => .finite (s && t) 0 0
  | a, b =>
    match a.signedRatio?, b.signedRatio? with
    | some (n, d), some (n', d') => ofSigned (n * d' + n' * d) (d * d')
    | _, _ => .nan

/-- The difference. -/
def sub (a b : Binary) : Binary :=
  a.add b.neg

/-- Whether a number is zero. -/
def isZero : Binary → Bool
  | .finite _ 0 _ => true
  | _ => false

/-- The product. -/
def mul (a b : Binary) : Binary :=
  let s := a.isNegative != b.isNegative
  match a, b with
  | .nan, _ => .nan
  | _, .nan => .nan
  | .finite _ m e, .finite _ m' e' =>
    let (n, d) := ratio m e
    let (n', d') := ratio m' e'
    ofRatio s (n * n') (d * d')
  | a, b => if a.isZero || b.isZero then .nan else .infinite s

/-- The quotient. -/
def div (a b : Binary) : Binary :=
  let s := a.isNegative != b.isNegative
  match a, b with
  | .nan, _ => .nan
  | _, .nan => .nan
  | .infinite _, .infinite _ => .nan
  | .infinite _, _ => .infinite s
  | _, .infinite _ => .finite s 0 0
  | .finite _ m e, .finite _ m' e' =>
    if m' = 0 then (if m = 0 then .nan else .infinite s)
    else
      let (n, d) := ratio m e
      let (n', d') := ratio m' e'
      ofRatio s (n * d') (d * n')

/-- The whole part, with the fraction dropped. -/
def truncate : Binary → Binary
  | .finite s m e =>
    let (n, d) := ratio m e
    ofRatio s (n / d) 1
  | a => a

/-- The remainder of a division whose quotient is whole. It has the sign of the first number. -/
def rem (a b : Binary) : Binary :=
  match a, b with
  | .finite s m e, .finite _ m' e' =>
    if m' = 0 then .nan
    else
      let (n, d) := ratio m e
      let (n', d') := ratio m' e'
      ofRatio s ((n * d') % (n' * d)) (d * d')
  | .finite s m e, .infinite _ => .finite s m e
  | _, _ => .nan

/-- Whether one number is less than another. -/
def lt (a b : Binary) : Bool :=
  match a, b with
  | .nan, _ => false
  | _, .nan => false
  | .infinite s, .infinite t => s && !t
  | .infinite s, _ => s
  | _, .infinite s => !s
  | a, b =>
    match a.signedRatio?, b.signedRatio? with
    | some (n, d), some (n', d') => n * d' < n' * d
    | _, _ => false

/-- Whether two numbers are equal. -/
def eq (a b : Binary) : Bool :=
  match a, b with
  | .nan, _ => false
  | _, .nan => false
  | a, b => !a.lt b && !b.lt a

/-- The whole number that a number is, if it is one. -/
def toInt? : Binary → Option Int
  | .finite s m e =>
    let (n, d) := ratio m e
    if n % d = 0 then some (if s then -(n / d : Nat) else (n / d : Nat)) else none
  | _ => none

/-! ### Reading -/

/-- The number at the start of a text, what follows it, and whether it is out of range. -/
structure Scanned where
  value : Binary
  rest : List Char
  isOutOfRange : Bool

/-- Whether a text starts with a word, in small or capital letters. -/
def startsWithWord (word : String) (cs : List Char) : Bool :=
  (cs.take word.length).map Char.toLower == word.toList

/-- The value of a hexadecimal digit. -/
def hexDigit? (c : Char) : Option Nat :=
  if c.isDigit then some (c.toNat - 48)
  else if 'a' ≤ c && c ≤ 'f' then some (c.toNat - 87)
  else if 'A' ≤ c && c ≤ 'F' then some (c.toNat - 55)
  else none

/-- The number that digits spell in a base. -/
def digitsIn (base : Nat) (cs : List Char) : Nat :=
  cs.foldl (fun n c => n * base + (hexDigit? c).getD 0) 0

/-- The exponent at the start of a text after one of the given letters, and what follows it. -/
def readExponent (letters : List Char) (cs : List Char) : Int × List Char :=
  match cs with
  | e :: rest =>
    if letters.contains e then
      let (isNegative, digits) :=
        match rest with
        | '-' :: rest => (true, rest)
        | '+' :: rest => (false, rest)
        | rest => (false, rest)
      let ds := digits.takeWhile Char.isDigit
      if ds.isEmpty then (0, cs)
      else
        let n : Int := digitsIn 10 ds
        (if isNegative then -n else n, digits.drop ds.length)
    else (0, cs)
  | [] => (0, [])

/-- The digits at the start of a text with at most one point among them: all of them, how many stand
after the point, and what follows. None if there is no digit. -/
def readPointed (isDigit : Char → Bool) (cs : List Char) :
    Option (List Char × Nat × List Char) :=
  let whole := cs.takeWhile isDigit
  let after := cs.drop whole.length
  match after with
  | '.' :: rest =>
    let fraction := rest.takeWhile isDigit
    if whole.isEmpty && fraction.isEmpty then none
    else some (whole ++ fraction, fraction.length, rest.drop fraction.length)
  | after => if whole.isEmpty then none else some (whole, 0, after)

/-- The largest power of ten that is worth computing. -/
def maxPower : Nat := 5000

/-- The number of some digits times a power of ten or of two. -/
def scaled (isNegative : Bool) (digits : Nat) (length : Nat) (base : Nat → Nat) (power : Int) :
    Binary :=
  if digits = 0 then .finite isNegative 0 0
  else if (maxPower : Int) + length < power then .infinite isNegative
  else if power < -((maxPower : Int) + length) then .finite isNegative 0 0
  else if 0 ≤ power then ofRatio isNegative (digits * base power.toNat) 1
  else ofRatio isNegative digits (base (-power).toNat)

/-- Reads a number without a sign. -/
def readUnsigned (isNegative : Bool) (cs : List Char) : Option Scanned :=
  let finish (digits : Nat) (value : Binary) (rest : List Char) : Scanned :=
    let isOut :=
      match value with
      | .infinite _ => true
      | .finite _ 0 _ => digits != 0
      | _ => false
    ⟨value, rest, isOut⟩
  if startsWithWord "infinity" cs then some ⟨.infinite isNegative, cs.drop 8, false⟩
  else if startsWithWord "inf" cs then some ⟨.infinite isNegative, cs.drop 3, false⟩
  else if startsWithWord "nan" cs then some ⟨.nan, cs.drop 3, false⟩
  else
    let hexadecimal :=
      if startsWithWord "0x" cs then readPointed (fun c => (hexDigit? c).isSome) (cs.drop 2)
      else none
    match hexadecimal with
    | some (digits, places, rest) =>
      let (exponent, rest) := readExponent ['p', 'P'] rest
      let n := digitsIn 16 digits
      let power := exponent - 4 * (places : Int)
      some (finish n (scaled isNegative n (4 * digits.length) powerOfTwo power) rest)
    | none =>
      match readPointed Char.isDigit cs with
      | some (digits, places, rest) =>
        let (exponent, rest) := readExponent ['e', 'E'] rest
        let n := digitsIn 10 digits
        let power := exponent - (places : Int)
        some (finish n (scaled isNegative n digits.length powerOfTen power) rest)
      | none => none

/-- Reads the number at the start of a text, after white characters. -/
def read (cs : List Char) : Option Scanned :=
  match cs.dropWhile fun c => c == ' ' || (8 < c.toNat && c.toNat < 14) with
  | '-' :: rest => readUnsigned true rest
  | '+' :: rest => readUnsigned false rest
  | rest => readUnsigned false rest

/-- The number that a whole text spells. -/
def ofText? (text : String) : Option Binary :=
  match read text.toList with
  | some ⟨value, [], _⟩ => some value
  | _ => none

/-! ### Writing -/

/-- A number in decimal digits, at least as many as asked for. -/
def padded (width n : Nat) : String :=
  let digits := toString n
  String.ofList (List.replicate (width - digits.length) '0') ++ digits

/-- Digits with a point before the last ones. The point is left out if nothing follows it, unless
it is asked for. -/
def pointed (places : Nat) (keepsPoint : Bool) (n : Nat) : String :=
  let digits := (padded (places + 1) n).toList
  let whole := digits.take (digits.length - places)
  let point := if places = 0 && !keepsPoint then [] else ['.']
  String.ofList (whole ++ point ++ digits.drop (digits.length - places))

/-- A ratio with a number of places after the point. -/
def fixedText (places : Nat) (keepsPoint : Bool) (num den : Nat) : String :=
  pointed places keepsPoint (roundDiv (num * powerOfTen places) den)

/-- The exponent of the first decimal digit of a ratio that is not zero. -/
def decimalExponent (num den : Nat) : Int :=
  let guess : Int := ((toString num).length : Int) - ((toString den).length : Int)
  let reaches : Bool :=
    if 0 ≤ guess then den * powerOfTen guess.toNat ≤ num
    else den ≤ num * powerOfTen (-guess).toNat
  if reaches then guess else guess - 1

/-- The digits of a ratio, as a whole number with a number of places after its first digit, and the
exponent of the first digit. -/
def scientificDigits (places : Nat) (num den : Nat) : Nat × Int :=
  if num = 0 then (0, 0)
  else
    let exponent := decimalExponent num den
    let shift : Int := (places : Int) - exponent
    let digits :=
      if 0 ≤ shift then roundDiv (num * powerOfTen shift.toNat) den
      else roundDiv num (den * powerOfTen (-shift).toNat)
    if powerOfTen (places + 1) ≤ digits then (digits / 10, exponent + 1) else (digits, exponent)

/-- The text of an exponent, which has two digits at least. -/
def exponentText (e : Int) : String :=
  "e" ++ (if e < 0 then "-" else "+") ++ padded 2 e.natAbs

/-- A ratio with one digit before the point and an exponent. -/
def scientificText (places : Nat) (keepsPoint : Bool) (num den : Nat) : String :=
  let (digits, exponent) := scientificDigits places num den
  pointed places keepsPoint digits ++ exponentText exponent

/-- A text without the zeros at its end that follow a point, and without a point at its end. -/
def dropZeros (text : String) : String :=
  if text.toList.contains '.' then
    let kept := text.toList.reverse.dropWhile (· == '0')
    String.ofList
      (match kept with
        | '.' :: rest => rest
        | kept => kept).reverse
  else text

/-- A ratio with a number of significant digits, with an exponent if it is very small or large. -/
def generalText (digits : Nat) (keepsPoint : Bool) (num den : Nat) : String :=
  let digits := max digits 1
  let (_, exponent) := scientificDigits (digits - 1) num den
  let trim (text : String) : String := if keepsPoint then text else dropZeros text
  if exponent < -4 || (digits : Int) ≤ exponent then
    let (mantissa, exponent) := scientificDigits (digits - 1) num den
    trim (pointed (digits - 1) keepsPoint mantissa) ++ exponentText exponent
  else trim (fixedText ((digits : Int) - 1 - exponent).toNat keepsPoint num den)

/-- A finite number in hexadecimal digits with a binary exponent. -/
def hexText (mantissa : Nat) (exponent : Int) : String :=
  if mantissa = 0 then "0x0p+0"
  else
    let bits := Nat.log2 mantissa
    let fraction := (mantissa - powerOfTwo bits) * powerOfTwo (52 - bits)
    let digits := Nat.toDigits 16 fraction
    let digits := List.replicate (13 - digits.length) '0' ++ digits
    let kept := (digits.reverse.dropWhile (· == '0')).reverse
    let power := exponent + bits
    "0x1" ++ (if kept.isEmpty then "" else "." ++ String.ofList kept) ++ "p"
      ++ (if power < 0 then "-" else "+") ++ toString power.natAbs

/-- The text of a number without its sign, in the form that a letter names. -/
def textAs (letter : Char) (precision : Option Nat) (keepsPoint : Bool) (a : Binary) : String :=
  let places := precision.getD 6
  let text :=
    match a with
    | .nan => "nan"
    | .infinite _ => "inf"
    | .finite _ m e =>
      let (num, den) := ratio m e
      match letter.toLower with
      | 'f' => fixedText places keepsPoint num den
      | 'e' => scientificText places keepsPoint num den
      | 'a' => hexText m e
      | _ => generalText places keepsPoint num den
  if letter.isUpper then text.toUpper else text

/-- The text of a number in its general form. -/
def text (digits : Nat) (a : Binary) : String :=
  (if a.isNegative then "-" else "") ++ a.textAs 'g' (some digits) false

end Binary

end SnippetForge
