import SnippetForge.Shell.Awk.Value
import SnippetForge.Shell.Awk.Sought

/-!
# Writing values and replacing matches

Values are written by a format whose conversions take one value each. In a text that replaces a
match, a sign stands for the match unless an odd number of backslashes is before it.
-/

namespace SnippetForge.Shell.Awk

/-! ### Formats -/

/-- Why a format cannot go on. -/
inductive FormatFailure
  | lacking
  | improper (number : Nat)

/-- What is said about a failure of a format, used by a function of a name. -/
def FormatFailure.words (f : FormatFailure) (function format : String) : String :=
  let call := function ++ "(\"" ++ format ++ "\")"
  match f with
  | .lacking => "not enough arguments passed to " ++ call
  | .improper number => "improper conversion(number " ++ toString number ++ ") in " ++ call

/-- A text of a conversion, or its failure. -/
def convertValue (textFormat : String) (layout : Layout) (letter : Char) (number : Nat) (v : Value) :
    Except FormatFailure String :=
  match letter with
  | 's' => .ok (layout.cutField (v.toText textFormat))
  | 'c' =>
    let c :=
      match v with
      | .number n => octet (wholeOf n % 256).toNat
      | .given _ n => octet (wholeOf n % 256).toNat
      | v => ((v.toText textFormat).toList.head?).getD (Char.ofNat 0)
    .ok (layout.field (String.singleton c))
  | letter =>
    if letter = 'd' || letter = 'i' then .ok (layout.integer (wideWholeOf v.toNumber))
    else if ['u', 'o', 'x', 'X'].contains letter then
      .ok (layout.unsigned letter (naturalOf v.toNumber))
    else if ['e', 'E', 'f', 'F', 'g', 'G', 'a', 'A'].contains letter then
      .ok (numberField layout letter v.toNumber)
    else .error (.improper number)

/-- A count for a layout that a star takes from the values, or that stands in the format. -/
def takeCount (cs : List Char) (vs : List Value) : Option (Int × List Char × List Value) :=
  match cs, vs with
  | '*' :: _, [] => none
  | '*' :: rest, v :: vs => some (wholeOf v.toNumber, rest, vs)
  | cs, vs =>
    let digits := cs.takeWhile Char.isDigit
    some (Text.digitsValue digits, cs.drop digits.length, vs)

/-- Writes values by a format. `done` is written already, last character first; `number` counts the
conversions. -/
def writeFormat (textFormat : String) : (fuel : Nat) → (number : Nat) → List Char → List Value →
    (done : List Char) → List Char × Option FormatFailure
  | 0, _, _, _, done => (done, none)
  | _ + 1, _, [], _, done => (done, none)
  | fuel + 1, number, '%' :: '%' :: rest, vs, done =>
    writeFormat textFormat fuel number rest vs ('%' :: done)
  | fuel + 1, number, '%' :: rest, vs, done =>
    let (layout, rest) := Layout.plain.readFlags rest
    match takeCount rest vs with
    | none => (done, some .lacking)
    | some (width, rest, vs) =>
      let layout := layout.withWidth width
      let taken : Option (Layout × List Char × List Value) :=
        match rest with
        | '.' :: rest => (takeCount rest vs).map fun t => (layout.withPrecision t.1, t.2)
        | rest => some (layout, rest, vs)
      match taken with
      | none => (done, some .lacking)
      | some (layout, rest, vs) =>
        let rest := rest.dropWhile fun c => c == 'l' || c == 'h'
        match vs, rest with
        | [], _ => (done, some .lacking)
        | _, [] => (done, some (.improper (number + 1)))
        | v :: vs, letter :: rest =>
          match convertValue textFormat layout letter (number + 1) v with
          | .ok text =>
            writeFormat textFormat fuel (number + 1) rest vs (text.toList.reverse ++ done)
          | .error f => (done, some f)
  | fuel + 1, number, c :: rest, vs, done =>
    writeFormat textFormat fuel number rest vs (c :: done)

/-! ### Replacing -/

/-- The text that replaces a match. `slashes` counts the backslashes right before. -/
def replacementOf (found : List Char) : (slashes : Nat) → List Char → List Char
  | slashes, [] => List.replicate slashes '\\'
  | slashes, '\\' :: rest => replacementOf found (slashes + 1) rest
  | slashes, '&' :: rest =>
    List.replicate (slashes / 2) '\\' ++ (if slashes % 2 = 0 then found else ['&'])
      ++ replacementOf found 0 rest
  | slashes, c :: rest => List.replicate slashes '\\' ++ c :: replacementOf found 0 rest

/-- Replaces matches in a text from a place on: the text from there, and how many were replaced. An
empty match right after a match does not count. -/
def replaceMatches (text : Array Char) (e : Expression) (replacement : List Char) :
    (fuel : Nat) → (isAfterMatch : Bool) → (start : Nat) → List Char × Nat
  | 0, _, start => ((text.extract start text.size).toList, 0)
  | fuel + 1, isAfterMatch, start =>
    match Sought.find? text e start with
    | none => ((text.extract start text.size).toList, 0)
    | some (i, j) =>
      if i = j && isAfterMatch && i = start then
        if start < text.size then
          let (rest, n) := replaceMatches text e replacement fuel false (start + 1)
          ((text.extract start (start + 1)).toList ++ rest, n)
        else ([], 0)
      else
        let front := (text.extract start i).toList
          ++ replacementOf (text.extract i j).toList 0 replacement
        if i = j then
          if j < text.size then
            let (rest, n) := replaceMatches text e replacement fuel false (j + 1)
            (front ++ (text.extract j (j + 1)).toList ++ rest, n + 1)
          else (front, 1)
        else
          let (rest, n) := replaceMatches text e replacement fuel true j
          (front ++ rest, n + 1)

/-- Replaces the first match in a text, or all of them, and counts them. -/
def replaceIn (text : String) (e : Expression) (replacement : String) (isForAll : Bool) :
    String × Nat :=
  let cs := text.toList.toArray
  if isForAll then
    let (done, n) := replaceMatches cs e replacement.toList (2 * cs.size + 2) false 0
    (String.ofList done, n)
  else
    match Sought.find? cs e 0 with
    | none => (text, 0)
    | some (i, j) =>
      (String.ofList ((cs.extract 0 i).toList
        ++ replacementOf (cs.extract i j).toList 0 replacement.toList
        ++ (cs.extract j cs.size).toList), 1)

end SnippetForge.Shell.Awk
