import SnippetForge.Shell.Pattern
import SnippetForge.Shell.Utility.Options
import SnippetForge.Text.Digits

/-!
# Translating characters

Characters of one set are replaced by those of another, dropped, or kept once where they repeat. A
set is spelled as a row of constructs: single characters, ranges, classes, and characters that are
repeated. Only classes of letters may be replaced by classes, and only by those at the same place.
-/

namespace SnippetForge.Shell.Utility

namespace Translation

/-! ### Spelling -/

/-- The options of `tr`. -/
def table : OptionTable :=
  ⟨"cCdst",
    [("complement", 'c'), ("delete", 'd'), ("squeeze-repeats", 's'), ("truncate-set1", 't')]⟩

/-- A character of a spelling, and whether a backslash was before it. -/
structure Spelled where
  char : Char
  isEscaped : Bool
  deriving DecidableEq, Repr

/-- Whether a character is this sign, without a backslash before it. -/
def Spelled.is (s : Spelled) (c : Char) : Bool :=
  s.char == c && !s.isEscaped

/-- The signs that a backslash gives a meaning. -/
def escapes : List (Char × Nat) :=
  [('a', 7), ('b', 8), ('f', 12), ('n', 10), ('r', 13), ('t', 9), ('v', 11)]

/-- Whether a character is an octal digit. -/
def isOctal (c : Char) : Bool :=
  '0' ≤ c && c ≤ '7'

/-- Reads a spelling, with the warnings about it. -/
def readSpelling : (fuel : Nat) → List Char → List Spelled × List String
  | 0, _ => ([], [])
  | _ + 1, [] => ([], [])
  | _ + 1, ['\\'] =>
    ([⟨'\\', false⟩], ["warning: an unescaped backslash at end of string is not portable"])
  | fuel + 1, '\\' :: c :: rest =>
    if isOctal c then
      let digits := ((c :: rest).takeWhile isOctal).take 3
      let value (ds : List Char) : Nat := ds.foldl (fun n d => n * 8 + (d.toNat - 48)) 0
      let isLarge := 255 < value digits
      let kept := if isLarge then digits.take 2 else digits
      let warnings :=
        if isLarge then
          ["warning: the ambiguous octal escape \\" ++ String.ofList digits
            ++ " is being\n\tinterpreted as the 2-byte sequence \\0" ++ String.ofList kept ++ ", "
            ++ String.ofList (digits.drop 2)]
        else []
      let (others, more) := readSpelling fuel ((c :: rest).drop kept.length)
      (⟨Char.ofNat (value kept), true⟩ :: others, warnings ++ more)
    else
      let (others, more) := readSpelling fuel rest
      (⟨((escapes.lookup c).map Char.ofNat).getD c, true⟩ :: others, more)
  | fuel + 1, c :: rest =>
    let (others, more) := readSpelling fuel rest
    (⟨c, false⟩ :: others, more)

/-! ### Constructs -/

/-- The classes of letters by their case. -/
inductive LetterCase
  | lower
  | upper
  deriving DecidableEq, Repr

/-- A part of a set. -/
inductive Construct
  | char (c : Char)
  | range (first last : Char)
  | named (k : CharClass)
  | same (c : Char)
  | repeated (c : Char) (count : Nat)
  /-- A character that is repeated as often as the other set asks for. -/
  | filling (c : Char)

/-- A character as it is shown in a message. -/
def shown (c : Char) : String :=
  if 31 < c.toNat && c.toNat < 127 then String.singleton c
  else
    let digits := Nat.toDigits 8 c.toNat
    "\\" ++ String.ofList (List.replicate (3 - digits.length) '0' ++ digits)

/-- Spelled characters as a text. -/
def textOf (cs : List Spelled) : String :=
  String.ofList (cs.map (·.char))

/-- The largest number of times that a character may be repeated. -/
def mostRepeats : Nat := 18446744073709551614

/-- How often a character is repeated by the digits after it. -/
def repeatCount (digits : String) : Except String Nat :=
  let cs := digits.toList
  let isRight := if cs.head? = some '0' then cs.all isOctal else cs.all Char.isDigit
  let n :=
    if cs.head? = some '0' then cs.foldl (fun n d => n * 8 + (d.toNat - 48)) 0
    else Text.digitsValue cs
  if isRight && n ≤ mostRepeats then .ok n
  else .error ("invalid repeat count " ++ marked digits ++ " in [c*n] construct")

/-- The construct for a repeated character after an opening bracket, and what follows it; none if
there is no such construct. -/
def readRepeated (cs : List Spelled) : Except String (Option (Construct × List Spelled)) :=
  match cs with
  | c :: star :: rest =>
    let digits := rest.takeWhile fun s => !s.isEscaped && s.char != ']'
    match rest.drop digits.length with
    | close :: after =>
      if !star.is '*' || !close.is ']' then .ok none
      else
        (repeatCount (textOf digits)).map fun n =>
          some (if n = 0 then .filling c.char else .repeated c.char n, after)
    | [] => .ok none
  | _ => .ok none

/-- The name in a construct that ends with a sign and a closing bracket, and what follows it. -/
def readName (sign : Char) : List Spelled → Option (List Spelled × List Spelled)
  | a :: b :: rest =>
    if a.is sign && b.is ']' then some ([], rest)
    else (readName sign (b :: rest)).map fun p => (a :: p.1, p.2)
  | _ => none

/-- Whether a star, digits and a closing bracket stand in the second place. -/
def startsRepeat (cs : List Spelled) : Bool :=
  match cs with
  | _ :: star :: rest =>
    let digits := rest.takeWhile fun s => s.char.isDigit && !s.isEscaped
    star.is '*' && ((rest.drop digits.length).head?).any (·.is ']')
  | _ => false

/-- The construct for a class of characters or for those that are the same as one; none if the
spelling is no such construct. -/
def readClass (cs : List Spelled) : Except String (Option (Construct × List Spelled)) :=
  match cs with
  | sign :: rest =>
    if !(sign.is ':' || sign.is '=') then .ok none
    else
      match readName sign.char rest with
      | none => .ok none
      | some ([], _) =>
        if sign.is ':' then .error "missing character class name '[::]'"
        else .error "missing equivalence class character '[==]'"
      | some (name, after) =>
        let k? := CharClass.ofName? (textOf name)
        match sign.char, k?, name with
        | ':', some k, _ => .ok (some (.named k, after))
        | '=', _, [c] => .ok (some (.same c.char, after))
        | c, _, _ =>
          let text := String.join (name.map fun s => shown s.char)
          if startsRepeat rest then .ok none
          else if c = ':' then .error ("invalid character class " ++ marked text)
          else .error (text ++ ": equivalence class operand must be a single character")
  | [] => .ok none

/-- Reads the constructs of a set, or complains. -/
def readConstructs : (fuel : Nat) → List Spelled → Except String (List Construct)
  | 0, _ => .ok []
  | _ + 1, [] => .ok []
  | fuel + 1, cs@(first :: rest) => do
    let others (p : Construct × List Spelled) : Except String (List Construct) := do
      return p.1 :: (← readConstructs fuel p.2)
    if cs.length < 3 then return cs.map fun s => .char s.char
    if first.is '[' then
      match ← readClass rest with
      | some p => return ← others p
      | none => pure ()
      match ← readRepeated rest with
      | some p => return ← others p
      | none => pure ()
    match rest with
    | dash :: last :: after =>
      if dash.is '-' then
        if last.char < first.char then
          throw ("range-endpoints of '" ++ shown first.char ++ "-" ++ shown last.char
            ++ "' are in reverse collating sequence order")
        return ← others (.range first.char last.char, after)
      others (.char first.char, rest)
    | _ => others (.char first.char, rest)

/-! ### Sets -/

/-- A character of a set: whether it is the first one of its construct, and the class of letters
that the construct is. -/
structure Item where
  char : Char
  isFirst : Bool
  letters : Option LetterCase
  deriving DecidableEq, Repr

/-- The class of letters that a construct is. -/
def Construct.letters : Construct → Option LetterCase
  | .named .lower => some .lower
  | .named .upper => some .upper
  | _ => none

/-- The characters of a construct; a character that fills is repeated as often as is asked for. -/
def Construct.chars (filling : Nat) : Construct → List Char
  | .char c => [c]
  | .range first last =>
    (List.range (last.toNat - first.toNat + 1)).map fun n => Char.ofNat (first.toNat + n)
  | .named k => ((List.range 256).map Char.ofNat).filter k.holds
  | .same c => [c]
  | .repeated c n => List.replicate (min n 65536) c
  | .filling c => List.replicate filling c

/-- The characters of a set. -/
def charsOf (filling : Nat) (constructs : List Construct) : List Char :=
  constructs.flatMap (·.chars filling)

/-- The characters of a set with their places in it. -/
def itemsOf (filling : Nat) (constructs : List Construct) : List Item :=
  constructs.flatMap fun k =>
    match k.chars filling with
    | [] => []
    | c :: cs => ⟨c, true, k.letters⟩ :: cs.map fun c => ⟨c, false, k.letters⟩

/-- All characters that some do not contain, in order. -/
def othersThan (cs : List Char) : List Char :=
  ((List.range 256).map Char.ofNat).filter fun c => !cs.contains c

/-- What is left of a set after the construct at its start. -/
def skipConstruct (items : List Item) : List Item :=
  (items.drop 1).dropWhile (!·.isFirst)

/-! ### What may be translated -/

/-- Whether a construct is a character that fills. -/
def Construct.isFilling : Construct → Bool
  | .filling _ => true
  | _ => false

/-- Whether a construct is a class. -/
def Construct.isClass : Construct → Bool
  | .named _ => true
  | _ => false

/-- Whether the classes of letters in two sets stand at the same places. -/
def areAligned : (fuel : Nat) → List Item → List Item → Bool
  | 0, _, _ => true
  | fuel + 1, as, bs =>
    match as.head?, bs.head? with
    | _, none => true
    | a, some b =>
      let isClass := a.any fun a => a.isFirst && a.letters.isSome
      if b.isFirst && b.letters.isSome && !isClass then false
      else if a.isNone then true
      else if b.letters.isSome then areAligned fuel (skipConstruct as) (skipConstruct bs)
      else areAligned fuel (as.drop 1) (bs.drop 1)

/-- The character that the end of a set is made longer with; none if it ends with a class. -/
def lastChar? (constructs : List Construct) : Option Char :=
  match constructs.getLast? with
  | some (.named _) => none
  | some k => (k.chars 1).getLast?
  | none => none

/-- Checks the sets of a translation, and makes them fit. `isComplement` tells that the first set is
meant to be all other characters. -/
def checked (isComplement truncates translates : Bool) (a b : List Construct) :
    Except String (List Construct) := do
  let many (cs : List Char) : Nat := if isComplement then (othersThan cs).length else cs.length
  let size := many (charsOf 0 a)
  let fillings := b.filter (·.isFilling)
  if a.any (·.isFilling) then
    throw "the [c*] repeat construct may not appear in string1"
  if 1 < fillings.length then
    throw "only one [c*] repeat construct may appear in string2"
  let fixed := (charsOf 0 b).length
  if !translates then
    if !fillings.isEmpty then
      throw "the [c*] construct may appear in string2 only when translating"
    return b
  let b := b.map fun k =>
    match k with
    | .filling c => .repeated c (size - fixed)
    | k => k
  let isSame (k : Construct) : Bool :=
    match k with
    | .same _ => true
    | _ => false
  if b.any isSame then throw "[=c=] expressions may not appear in string2 when translating"
  if b.any fun k => k.isClass && k.letters.isNone then
    throw ("when translating, the only character classes that may appear in\n"
      ++ "string2 are 'upper' and 'lower'")
  let as := itemsOf 0 a
  let bs := itemsOf 0 b
  if !isComplement && b.any (·.isClass) && !areAligned (as.length + bs.length + 1) as bs then
    throw "misaligned [:upper:] and/or [:lower:] construct"
  let length := bs.length
  let b ← do
    if size ≤ length || truncates then pure b
    else if length = 0 then throw "when not truncating set1, string2 must be non-empty"
    else
      match lastChar? b with
      | some c => pure (b ++ [.repeated c (size - length)])
      | none =>
        throw ("when translating with string1 longer than string2,\n"
          ++ "the latter string must not end with a character class")
  let second := charsOf 0 b
  if isComplement && a.any (·.isClass)
      && !(second.length = size && second.all fun c => some c = second.head?) then
    throw ("when translating with complemented character classes,\n"
      ++ "string2 must map all characters in the domain to one")
  return b

/-- The pairs of characters that a translation consists of; later ones count. -/
def pairs : (fuel : Nat) → List Item → List Item → List (Char × Char)
  | 0, _, _ => []
  | fuel + 1, as, bs =>
    match as, bs with
    | a :: as', b :: bs' =>
      let turned (change : Char → Char) (k : CharClass) : List (Char × Char) :=
        ((Construct.named k).chars 0).map (fun c => (c, change c))
          ++ pairs fuel (skipConstruct as) (skipConstruct bs)
      match a.letters, b.letters with
      | some .lower, some .upper => turned Char.toUpper .lower
      | some .upper, some .lower => turned Char.toLower .upper
      | some _, some _ => pairs fuel as' bs'
      | _, _ => (a.char, b.char) :: pairs fuel as' bs'
    | _, _ => []

/-- Keeps one of some characters where it repeats. -/
def squeeze (set cs : List Char) : List Char :=
  (cs.foldl (fun (kept : List Char) c =>
    if kept.head? = some c && set.contains c then kept else c :: kept) []).reverse

/-- What a call makes of some characters by its two sets, if they are right. -/
def change (call : Call) (a : List Construct) (b : Option (List Construct)) :
    Except String (List Char → List Char) := do
  let isComplement := call.hasAny "cC"
  let translates := b.isSome && !call.has 'd'
  let second ← checked isComplement (call.has 't') translates a (b.getD [])
  let all := charsOf 0 a
  let first := if isComplement then othersThan all else all
  let last := charsOf 0 second
  let squeezed (set : List Char) : List Char → List Char :=
    if call.has 's' then squeeze set else id
  if call.has 'd' then
    return fun cs => squeezed last (cs.filter fun c => !first.contains c)
  else if b.isNone then return squeezed first
  else
    let table :=
      if isComplement then first.zip last
      else
        let as := itemsOf 0 a
        (pairs (as.length + 1) as (itemsOf 0 second)).reverse
    return fun cs => squeezed last (cs.map fun c => (table.lookup c).getD c)

end Translation

open Translation in
/-- Replaces, drops or squeezes characters. -/
def tr (site : Site) (words : List String) (input : Source) : Outcome :=
  match Call.readLeading Translation.table words with
  | .error flaw => misuse site flaw.words 1
  | .ok call =>
    let deletes := call.has 'd'
    let squeezes := call.has 's'
    let fewest := if deletes == squeezes then 2 else 1
    let most := if deletes && !squeezes then 1 else 2
    match call.operands with
    | [] => misuse site "missing operand" 1
    | first :: others =>
      let count := others.length + 1
      if count < fewest then
        let why :=
          if squeezes then "when both deleting and squeezing repeats" else "when translating"
        misuse site ("missing operand after " ++ marked (others.getLastD first)
          ++ "\nTwo strings must be given " ++ why ++ ".") 1
      else if most < count then
        let extra := ((first :: others)[most]?).getD ""
        let why := if count = 2 then
          "\nOnly one string may be given when deleting without squeezing repeats." else ""
        misuse site ("extra operand " ++ marked extra ++ why) 1
      else
        let (a, warnings) := readSpelling (first.length + 1) first.toList
        let o := warnings.foldl (fun o text => o.note (message site text) 0) (Outcome.nothing site)
        let stop (o : Outcome) (text : String) : Outcome := o.note (message site text) 1
        match readConstructs (a.length + 1) a, others.head? with
        | .error text, _ => stop o text
        | .ok a, none =>
          match change call a none with
          | .error text => stop o text
          | .ok step => o.write (String.ofList (step input.text.toList))
        | .ok a, some second =>
          let (b, warnings) := readSpelling (second.length + 1) second.toList
          let o := warnings.foldl (fun o text => o.note (message site text) 0) o
          match (readConstructs (b.length + 1) b).bind fun b => change call a (some b) with
          | .error text => stop o text
          | .ok step => o.write (String.ofList (step input.text.toList))

end SnippetForge.Shell.Utility
