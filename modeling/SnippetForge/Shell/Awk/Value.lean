import SnippetForge.Shell.Awk.Syntax
import SnippetForge.Shell.Format

/-!
# Values of programs for records

A value is a number or a text, or it has not been set. A text that comes from outside and reads as a
number is compared as a number. Whole numbers are written in full, all others by a format.
-/

namespace SnippetForge.Shell.Awk

/-- A value. -/
inductive Value
  | unset
  | number (n : Binary)
  | text (s : String)
  /-- A text from outside that reads as a number. -/
  | given (s : String) (n : Binary)
  deriving Repr

/-! ### Numbers -/

/-- The number that stands at the start of a text; zero if there is none. -/
def numberOf (s : String) : Binary :=
  match Binary.read s.toList with
  | some scanned => scanned.value
  | none => .zero

/-- Whether a character is a blank of a text that reads as a number. -/
def isBlank (c : Char) : Bool :=
  c == ' ' || c == '\t' || c == '\x0b' || c == '\x0c' || c == '\r'

/-- The bound of whole numbers with a sign. -/
def signedBound : Nat := 9223372036854775808

/-- The bound of whole numbers without a sign. -/
def unsignedBound : Nat := 18446744073709551616

/-- The whole number in a number, cut off and kept within the bounds for a sign. -/
def wholeOf (n : Binary) : Int :=
  match n with
  | .nan => -(signedBound : Int)
  | .infinite true => -((signedBound : Int) - 1)
  | .infinite false => (signedBound : Int) - 1
  | n =>
    let k := (n.truncate.toInt?).getD 0
    if (signedBound : Int) ≤ k then (signedBound : Int) - 1
    else if k < -(signedBound : Int) then -((signedBound : Int) - 1)
    else k

/-- A number as a whole one for a conversion with a sign. Large ones have more room than small
ones. -/
def wideWholeOf (n : Binary) : Int :=
  match n with
  | .infinite false => (unsignedBound : Int) - 1
  | n =>
    match n.truncate.toInt? with
    | some k => if (signedBound : Int) ≤ k then min k ((unsignedBound : Int) - 1) else wholeOf n
    | none => wholeOf n

/-- A number as a whole one for a conversion without a sign. Negative ones wrap. -/
def naturalOf (n : Binary) : Nat :=
  let k := wideWholeOf n
  if k < 0 then (k + unsignedBound).toNat else k.toNat

/-- Writes a number by a layout and a letter. What is no number is written with a sign. -/
def numberField (layout : Layout) (letter : Char) (n : Binary) : String :=
  match n with
  | .nan => layout.signedField false "-" (n.textAs letter layout.precision layout.isAlternate)
  | n => layout.binary letter n

/-- Writes a number by the first conversion of a format. -/
def formattedNumber (format : String) (n : Binary) : String :=
  let cs := format.toList
  let front := cs.takeWhile (· != '%')
  match cs.drop front.length with
  | '%' :: rest =>
    let (layout, _, after) := readLayout ⟨[], [], [], true, none⟩ rest
    match after with
    | letter :: back =>
      let shown :=
        if letter == 'd' || letter == 'i' then layout.integer (wideWholeOf n)
        else numberField layout letter n
      String.ofList front ++ shown ++ String.ofList back
    | [] => format
  | _ => format

/-- The text of a number: whole ones in full, others by a format. -/
def numberText (format : String) (n : Binary) : String :=
  match n.toInt? with
  | some k =>
    if -(signedBound : Int) ≤ k && k ≤ (unsignedBound : Int) then
      toString (if k = (unsignedBound : Int) then k - 1 else k)
    else formattedNumber format n
  | none => formattedNumber format n

namespace Value

/-- A text from outside. -/
def ofOutside (s : String) : Value :=
  let cs := s.toList.dropWhile isBlank
  let kept := (cs.reverse.dropWhile isBlank).reverse
  let startsWell (c : Char) : Bool := c.isDigit || c == '+' || c == '-' || c == '.'
  let endsWell (c : Char) : Bool := c.isDigit || c == '.'
  if (kept.head?).any startsWell && (kept.getLast?).any endsWell then
    match Binary.read kept with
    | some scanned =>
      if scanned.rest.isEmpty && !scanned.isOutOfRange then .given s scanned.value else .text s
    | none => .text s
  else .text s

/-- The number of a value. -/
def toNumber : Value → Binary
  | .unset => .zero
  | .number n => n
  | .text s => numberOf s
  | .given _ n => n

/-- The text of a value, numbers by a format. -/
def toText (format : String) : Value → String
  | .unset => ""
  | .number n => numberText format n
  | .text s => s
  | .given s _ => s

/-- Whether a value counts as true. -/
def isTrue : Value → Bool
  | .unset => false
  | .number n => !n.isZero
  | .text s => s != ""
  | .given _ n => !n.isZero

/-- The value of a condition. -/
def ofBool (b : Bool) : Value :=
  .number (.ofInt (if b then 1 else 0))

/-- The value of a whole number. -/
def ofInt (n : Int) : Value :=
  .number (.ofInt n)

/-- Whether a value is a text and nothing else. -/
def isText : Value → Bool
  | .text _ => true
  | _ => false

end Value

/-- Whether a comparison holds for an order. -/
def Comparison.holds (k : Comparison) (isLess isEqual : Bool) : Bool :=
  match k with
  | .less => isLess
  | .lessOrEqual => isLess || isEqual
  | .equal => isEqual
  | .unequal => !isEqual
  | .greater => !isLess && !isEqual
  | .greaterOrEqual => !isLess

end SnippetForge.Shell.Awk
