import SnippetForge.Shell.Utility.Options
import SnippetForge.Text.Digits

/-!
# Amounts

Whole numbers in the words of a program. A letter after a number is a factor of it; some programs
take a second letter that tells whether the factor is a power of 1000 or of 1024. A letter alone is
the factor once. A number can be too small or too large for its purpose.
-/

namespace SnippetForge.Shell.Utility

/-- Why a word is no amount. -/
inductive AmountFlaw
  | noNumber
  | outOfRange
  | tooLarge
  deriving DecidableEq, Repr

/-- What is said about a flaw after the word. -/
def AmountFlaw.words : AmountFlaw → String
  | .noNumber => ""
  | .outOfRange => ": Numerical result out of range"
  | .tooLarge => ": Value too large for defined data type"

namespace Amount

/-- The largest number without a sign. -/
def mostUnsigned : Nat := 18446744073709551615

/-- The largest number with a sign. -/
def mostSigned : Nat := 9223372036854775807

/-- The power that a letter stands for. -/
def powers : List (Char × Nat) :=
  [('k', 1), ('K', 1), ('M', 2), ('m', 2), ('G', 3), ('g', 3), ('T', 4), ('t', 4), ('P', 5),
    ('E', 6), ('Z', 7), ('Y', 8), ('R', 9), ('Q', 10)]

/-- The factor at the start of some letters, and what follows it. `letters` are those that may be
used; a zero among them allows a second letter. -/
def factor? (letters : String) (cs : List Char) : Option (Nat × List Char) :=
  match cs with
  | [] => some (1, [])
  | c :: rest =>
    if !letters.toList.contains c then none
    else
      match powers.lookup c with
      | some n =>
        let hasSecond := letters.toList.contains '0'
        match hasSecond, rest with
        | true, 'i' :: 'B' :: rest => some (Nat.pow 1024 n, rest)
        | true, 'B' :: rest => some (Nat.pow 1000 n, rest)
        | true, 'D' :: rest => some (Nat.pow 1000 n, rest)
        | _, rest => some (Nat.pow 1024 n, rest)
      | none =>
        match c with
        | 'b' => some (512, rest)
        | 'c' => some (1, rest)
        | 'w' => some (2, rest)
        | 'B' => some (1024, rest)
        | _ => none

/-- Reads an amount between bounds. -/
def read (letters : String) (least most : Int) (text : String) : Except AmountFlaw Int :=
  let isSigned := least < 0
  let cs := text.toList.dropWhile fun c => c == ' ' || (8 < c.toNat && c.toNat < 14)
  let (isNegative, cs) : Bool × List Char :=
    match cs with
    | '-' :: cs => (true, cs)
    | '+' :: cs => (false, cs)
    | cs => (false, cs)
  let digits := cs.takeWhile Char.isDigit
  let after := cs.drop digits.length
  let bound := if isSigned then mostSigned else mostUnsigned
  if isNegative && !isSigned then .error .noNumber
  else if digits.isEmpty && !(after.head?).any letters.toList.contains then .error .noNumber
  else
    let n := if digits.isEmpty then 1 else Text.digitsValue digits
    match factor? letters after with
    | some (factor, []) =>
      if bound < n * factor then .error .tooLarge
      else
        let value : Int := if isNegative then -(n * factor : Nat) else (n * factor : Nat)
        if value < least || most < value then
          .error (if 1073741823 < value || value < -1073741824 then .tooLarge else .outOfRange)
        else .ok value
    | _ => .error .noNumber

/-- Reads an amount, or complains: what it is for, the word and the flaw. -/
def readFor (purpose letters : String) (least most : Int) (text : String) : Except String Int :=
  match read letters least most text with
  | .ok n => .ok n
  | .error flaw => .error (purpose ++ ": " ++ marked text ++ flaw.words)

/-- The value of an option as an amount without letters, or a usual one. -/
def ofOption (call : Call) (c : Char) (purpose : String) (least most : Int) (usual : Int) :
    Except String Int :=
  match call.value? c with
  | some text => readFor purpose "" least most text
  | none => .ok usual

end Amount

/-! ### Parts with ends -/

/-- The parts of a text, each of which ends with a character; the last one may lack it. -/
def partsOf (terminator : Char) (text : String) : List String × Bool :=
  match text.toList.splitOn terminator with
  | [] => ([], true)
  | parts =>
    if parts.getLast? = some [] then (parts.dropLast.map String.ofList, true)
    else (parts.map String.ofList, false)

/-- Parts as a text, each with its end. -/
def withEnds (terminator : Char) (parts : List String) : String :=
  String.join (parts.map (· ++ String.singleton terminator))

/-- The end of lines, which is a null byte if an option asks for it. -/
def lineEndOf (call : Call) (c : Char) : Char :=
  if call.has c then Char.ofNat 0 else '\n'

end SnippetForge.Shell.Utility
