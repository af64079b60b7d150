import SnippetForge.Shell.Utility.Amounts

/-!
# Repeated lines

Neighbouring lines that compare equal are a group. Of a group one line is written, or all, or none,
depending on how many lines it has; counts and empty lines may tell groups apart.
-/

namespace SnippetForge.Shell.Utility

namespace Repeats

/-- The options of `uniq`. -/
def table : OptionTable :=
  ⟨"cduDif:s:w:zα::γ::0123456789",
    [("count", 'c'), ("repeated", 'd'), ("unique", 'u'), ("all-repeated", 'α'), ("group", 'γ'),
      ("ignore-case", 'i'), ("skip-fields", 'f'), ("skip-chars", 's'), ("check-chars", 'w'),
      ("zero-terminated", 'z')]⟩

/-- Where empty lines stand between groups. -/
inductive Gaps
  | none
  | before
  | after
  | between
  | around
  deriving DecidableEq, Repr

/-- The words for gaps between groups of repeated lines. -/
def repeatedGaps : Choices Gaps :=
  [(["none"], .none), (["prepend"], .before), (["separate"], .between)]

/-- The words for gaps between all groups. -/
def groupGaps : Choices Gaps :=
  [(["prepend"], .before), (["append"], .after), (["separate"], .between), (["both"], .around)]

/-- What of a line is compared. -/
structure Compared where
  fields : Nat
  characters : Nat
  most : Option Nat
  ignoresCase : Bool

/-- Characters after some fields, each being blanks and what is not blank. -/
def skipFields : Nat → List Char → List Char
  | 0, cs => cs
  | n + 1, cs =>
    let isBlank (c : Char) : Bool := c == ' ' || c == '\t' || c == '\n'
    skipFields n ((cs.dropWhile isBlank).dropWhile fun c => !isBlank c)

/-- The part of a line that is compared. -/
def Compared.part (k : Compared) (line : String) : List Char :=
  let cs := (skipFields k.fields line.toList).drop k.characters
  let cs := match k.most with
    | some n => cs.take n
    | Option.none => cs
  if k.ignoresCase then cs.map Char.toLower else cs

/-- Lines in groups of neighbours that compare equal. -/
def groupsOf (key : String → List Char) : List String → List (List String)
  | [] => []
  | line :: rest =>
    match groupsOf key rest with
    | [] => [[line]]
    | group :: groups =>
      if (group.head?).any fun next => key next == key line then (line :: group) :: groups
      else [line] :: group :: groups

/-- Which lines of groups are written. -/
structure Shown where
  hasSingle : Bool
  hasLast : Bool
  hasOthers : Bool
  hasCounts : Bool

/-- A line with the number of lines that it stands for. -/
def Shown.line (s : Shown) (count : Nat) (line : String) : String :=
  if s.hasCounts then padLeft 7 (toString count) ++ " " ++ line else line

/-- The lines that are written of a group. Of a group whose other lines are not written, the first
line stands for the last one. -/
def Shown.ofGroup (s : Shown) (group : List String) : List String :=
  let n := group.length
  if n = 1 then if s.hasSingle then group.map (s.line 1) else []
  else if s.hasOthers then
    let counted := group.zipIdx.map fun e => s.line (min n (e.2 + 2)) e.1
    if s.hasLast then counted else counted.dropLast
  else if s.hasLast then (group.take 1).map (s.line n)
  else []

/-- All groups as they are written, with gaps. -/
def allGroups (gaps : Gaps) (terminator : Char) (groups : List (List String)) : String :=
  let gap := String.singleton terminator
  let texts := groups.map (withEnds terminator)
  match gaps with
  | .before => String.join (texts.map (gap ++ ·))
  | .after => if texts.isEmpty then "" else gap.intercalate texts ++ gap
  | .around => if texts.isEmpty then "" else gap ++ gap.intercalate texts ++ gap
  | _ => gap.intercalate texts

/-- Chosen lines of groups as they are written, with gaps before groups of more than one line. -/
def chosenGroups (s : Shown) (gaps : Gaps) (terminator : Char) (groups : List (List String)) :
    String :=
  let step (done : String × Bool) (group : List String) : String × Bool :=
    let isRepeated := 1 < group.length
    let hasGap := isRepeated && (gaps = .before || (gaps = .between && done.2))
    (done.1 ++ (if hasGap then String.singleton terminator else "")
      ++ withEnds terminator (s.ofGroup group), done.2 || isRepeated)
  (groups.foldl step ("", false)).1

/-- Words without numbers of characters to skip after a plus sign, and the last of these. -/
def withoutPlus (words : List String) : List String × Option Nat :=
  let number? (word : String) : Option Nat :=
    match word.toList with
    | '+' :: cs => Text.natural? (String.ofList cs)
    | _ => Option.none
  (words.filter fun w => (number? w).isNone, (words.filterMap number?).getLast?)

/-- The number of fields to skip: a digit that is an option adds to a number of such digits, which
the value of an option starts anew. -/
def fieldsIn (call : Call) : Except String Nat :=
  let step (s : Nat × Bool) (o : Char × String) : Except String (Nat × Bool) :=
    if o.1.isDigit then
      .ok (min Amount.mostUnsigned ((if s.2 then 0 else s.1 * 10) + (o.1.toNat - 48)), false)
    else if o.1 = 'f' then
      match Amount.read "" 0 Amount.mostUnsigned o.2 with
      | .ok n => .ok (n.toNat, true)
      | .error .noNumber => .error (o.2 ++ ": invalid number of fields to skip")
      | .error _ => .ok (Amount.mostUnsigned, true)
    else .ok s
  (call.options.foldlM step (0, false)).map (·.1)

/-- What of lines is compared, by a call. -/
def comparedIn (call : Call) (plus : Option Nat) : Except String Compared := do
  let natural (c : Char) (what : String) : Except String (Option Nat) :=
    match call.value? c with
    | some text =>
      match Amount.read "" 0 Amount.mostUnsigned text with
      | .ok n => .ok (some n.toNat)
      | .error .noNumber => .error (text ++ ": invalid number of " ++ what)
      | .error _ => .ok (some Amount.mostUnsigned)
    | Option.none => .ok Option.none
  let fields ← fieldsIn call
  let characters ← natural 's' "bytes to skip"
  let most ← natural 'w' "bytes to compare"
  return ⟨fields, (plus.orElse fun _ => characters).getD 0, most, call.has 'i'⟩

/-- What a call makes of a text, or why it makes no sense. -/
def textOf (call : Call) (compared : Compared) (repeated : Gaps) (group : Option Gaps)
    (text : String) : String :=
  let terminator := lineEndOf call 'z'
  let groups := groupsOf compared.part (partsOf terminator text).1
  let hasAll := call.hasAny "Dα"
  match group with
  | some gaps => allGroups gaps terminator groups
  | Option.none =>
    let shown : Shown := ⟨!(call.has 'd' || hasAll), !call.has 'u', hasAll, call.has 'c'⟩
    chosenGroups shown repeated terminator groups

end Repeats

open Repeats in
/-- Drops lines that repeat the one before. -/
def uniq (site : Site) (words : List String) (input : Source) : Outcome :=
  let (words, plus) := withoutPlus words
  withCall site Repeats.table 1 words fun call =>
    let gapsOf (choices : Choices Gaps) (name : String) (usual : Gaps) (value : Option String) :
        Except String Gaps :=
      match value with
      | Option.none => .ok usual
      | some "" => .ok usual
      | some word => choices.read name word
    let repeated := gapsOf repeatedGaps "--all-repeated" .none (call.value? 'α')
    let group := (call.value? 'γ').map fun word =>
      gapsOf groupGaps "--group" .between (some word)
    match repeated, group, comparedIn call plus, call.operands with
    | .error text, _, _, _ => misuse site text 1
    | _, some (.error text), _, _ => misuse site text 1
    | _, _, .error text, _ => fails site text 1
    | _, _, _, _ :: _ :: word :: _ => misuse site ("extra operand " ++ marked word) 1
    | .ok repeated, group, .ok compared, names =>
      if group.isSome && call.hasAny "cdDαu" then
        misuse site "--group is mutually exclusive with -c/-d/-D/-u" 1
      else if call.has 'c' && call.hasAny "Dα" then
        misuse site "printing all duplicated lines and repeat counts is meaningless" 1
      else
        match readText site input (names.headD "-") with
        | .error text => fails site text 1
        | .ok text =>
          let out := textOf call compared repeated (group.bind Except.toOption) text
          match names.drop 1 with
          | [] => prints site out
          | "-" :: _ => prints site out
          | target :: _ =>
            match site.disk.updateFile site.cwd (pathOf target) site.fileMode fun _ =>
                Text.octetBytes out with
            | .ok disk => (Outcome.nothing site).onDisk disk
            | .error fault => fails site (nameText target ++ ": " ++ wordsOf fault) 1

end SnippetForge.Shell.Utility
