import SnippetForge.Shell.Format
import SnippetForge.Shell.Utility.Amounts

/-!
# Columns

Cutting columns out of lines: bytes, or fields between delimiters, that are chosen by ranges of their
places. Lines of several files are put side by side, as columns of one.
-/

namespace SnippetForge.Shell.Utility

namespace Columns

/-! ### Ranges -/

/-- A range of places that are counted from one; a range may have no end. -/
structure Range where
  first : Nat
  last : Option Nat
  deriving DecidableEq, Repr

/-- Whether a place lies in a range. -/
def Range.holds (n : Nat) (r : Range) : Bool :=
  r.first ≤ n && r.last.all (n ≤ ·)

/-- A range that is being read: the number before a dash if there is a dash, whether that number is
there, the number after it or without one, and whether that is there. -/
structure Draft where
  start : Option Nat
  hasStart : Bool
  number : Nat
  hasNumber : Bool
  deriving DecidableEq, Repr

/-- Nothing read yet. -/
def Draft.empty : Draft :=
  ⟨none, false, 0, false⟩

/-- What is said about places that are zero. -/
def zeroText (isFields : Bool) : String :=
  if isFields then "fields are numbered from 1"
  else "byte/character positions are numbered from 1"

/-- The range of a draft, or a complaint. -/
def Draft.finish (isFields : Bool) (d : Draft) : Except String Range :=
  match d.start with
  | none => if d.number = 0 then .error (zeroText isFields) else .ok ⟨d.number, some d.number⟩
  | some start =>
    if !d.hasNumber then
      if d.hasStart then .ok ⟨start, none⟩ else .error "invalid range with no endpoint: -"
    else if d.number < start then .error "invalid decreasing range"
    else .ok ⟨start, some d.number⟩

/-- Reads ranges between commas or blanks, or complains. -/
def readFrom (isFields : Bool) : (fuel : Nat) → Draft → List Char → Except String (List Range)
  | 0, d, _ => (d.finish isFields).map ([·])
  | _ + 1, d, [] => (d.finish isFields).map ([·])
  | fuel + 1, d, c :: rest =>
    if c = ',' || c = ' ' || c = '\t' then do
      let r ← d.finish isFields
      let rs ← readFrom isFields fuel .empty rest
      return r :: rs
    else if c = '-' then
      if d.start.isSome then
        .error ("invalid " ++ (if isFields then "field" else "byte or character") ++ " range")
      else if d.hasNumber && d.number = 0 then .error (zeroText isFields)
      else
        let start := if d.hasNumber then d.number else 1
        readFrom isFields fuel ⟨some start, d.hasNumber, 0, false⟩ rest
    else if c.isDigit then
      let digits := (c :: rest).takeWhile Char.isDigit
      let n := Text.digitsValue digits
      if Amount.mostUnsigned ≤ n then
        .error ((if isFields then "field number " else "byte/character offset ")
          ++ marked (String.ofList digits) ++ " is too large")
      else
        readFrom isFields fuel { d with number := n, hasNumber := true }
          ((c :: rest).drop digits.length)
    else
      .error ("invalid " ++ (if isFields then "field value " else "byte/character position ")
        ++ marked (String.ofList (c :: rest)))

/-- Puts a range into a list of ranges that are in order, so that those which overlap are one. -/
def insert (r : Range) : List Range → List Range
  | [] => [r]
  | s :: rest =>
    if s.last.all fun n => r.first ≤ n then
      let last := match s.last, r.last with
        | some a, some b => some (max a b)
        | _, _ => none
      ⟨s.first, last⟩ :: rest
    else s :: insert r rest

/-- Ranges in order, those that overlap being one. -/
def merged (ranges : List Range) : List Range :=
  (ranges.mergeSort fun a b => decide (a.first ≤ b.first)).foldl (fun done r => insert r done) []

/-- The ranges of all other places, from a place on. -/
def others : (start : Nat) → List Range → List Range
  | start, [] => [⟨start, none⟩]
  | start, r :: rest =>
    let front : List Range := if start < r.first then [⟨start, some (r.first - 1)⟩] else []
    match r.last with
    | some n => front ++ others (n + 1) rest
    | none => front

/-- Reads ranges in order, or complains. -/
def readRanges (isFields isComplement : Bool) (text : String) : Except String (List Range) :=
  (readFrom isFields (text.length + 1) .empty text.toList).map fun ranges =>
    if isComplement then others 1 (merged ranges) else merged ranges

/-- The parts of a list that ranges choose. -/
def chosen {α : Type} (ranges : List Range) (xs : List α) : List (List α) :=
  (ranges.map fun r =>
    let rest := xs.drop (r.first - 1)
    match r.last with
    | some n => rest.take (n + 1 - r.first)
    | none => rest).filter (!·.isEmpty)

/-! ### Cutting -/

/-- The options of `cut`. -/
def cutTable : OptionTable :=
  ⟨"b:c:f:d:snCo:z",
    [("bytes", 'b'), ("characters", 'c'), ("fields", 'f'), ("delimiter", 'd'),
      ("only-delimited", 's'), ("complement", 'C'), ("output-delimiter", 'o'),
      ("zero-terminated", 'z')]⟩

/-- What is cut out of a line; none if the line is left out. -/
def cutLine (call : Call) (delimiter : Char) (ranges : List Range) (line : String) :
    Option String :=
  if call.has 'f' then
    let fields := line.toList.splitOn delimiter
    if fields.length = 1 then if call.has 's' then none else some line
    else
      let between := (call.value? 'o').getD (String.singleton delimiter)
      some (between.intercalate ((chosen ranges fields).flatten.map String.ofList))
  else
    some (((call.value? 'o').getD "").intercalate ((chosen ranges line.toList).map String.ofList))

/-- What is cut out of a text. -/
def cutText (call : Call) (delimiter : Char) (ranges : List Range) (text : String) : String :=
  let terminator := lineEndOf call 'z'
  let lines := (partsOf terminator text).1
  if call.has 'f' && delimiter = terminator then
    if lines.length = 1 && call.has 's' then ""
    else
      let between := (call.value? 'o').getD (String.singleton delimiter)
      let parts := if lines.length = 1 then lines else (chosen ranges lines).flatten
      if lines.isEmpty then "" else between.intercalate parts ++ String.singleton terminator
  else withEnds terminator (lines.filterMap (cutLine call delimiter ranges))

/-! ### Side by side -/

/-- The options of `paste`. -/
def pasteTable : OptionTable :=
  ⟨"d:sz", [("delimiters", 'd'), ("serial", 's'), ("zero-terminated", 'z')]⟩

/-- The delimiters that a list spells; none if it ends with a lone backslash. -/
def delimitersOf : List Char → Option (List String)
  | ['\\'] => none
  | '\\' :: '0' :: rest => (delimitersOf rest).map ("" :: ·)
  | '\\' :: c :: rest =>
    let letter := if c = 'e' || c = 'a' then c else (escapeOf? c).getD c
    (delimitersOf rest).map (String.singleton letter :: ·)
  | c :: rest => (delimitersOf rest).map (String.singleton c :: ·)
  | [] => some []

/-- Texts with delimiters between them, taken from a list over and over. -/
def joinWith (delimiters : List String) (texts : List String) : String :=
  let between (n : Nat) : String := (delimiters[n % delimiters.length]?).getD ""
  match texts with
  | [] => ""
  | first :: rest =>
    first ++ String.join (rest.zipIdx.map fun e => between e.2 ++ e.1)

/-- The rows of some columns, as long as one of them has lines. -/
def rowsOf : (fuel : Nat) → List (List String) → List (List String)
  | 0, _ => []
  | fuel + 1, columns =>
    if columns.all List.isEmpty then []
    else columns.map (·.headD "") :: rowsOf fuel (columns.map (·.drop 1))

/-- The lines that each name gets. Names that stand for the input share its lines: in turns, or the
first one has them all. -/
def sharedColumns (names : List String) (isSerial : Bool) (input : List String)
    (read : String → List String) : List (List String) :=
  let shares := (names.filter namesInput).length
  let step (s : Nat × List (List String)) (name : String) : Nat × List (List String) :=
    if namesInput name then
      let mine :=
        if isSerial then if s.1 = 0 then input else []
        else input.zipIdx.filterMap fun e => if e.2 % shares = s.1 then some e.1 else none
      (s.1 + 1, s.2 ++ [mine])
    else (s.1, s.2 ++ [read name])
  (names.foldl step (0, [])).2

end Columns

/-! ### The programs -/

open Columns in
/-- Cuts parts out of lines. -/
def cut (site : Site) (words : List String) (input : Source) : Outcome :=
  withCall site cutTable 1 words fun call =>
    let lists := call.options.filter fun o => "bcf".toList.contains o.1
    let isFields := call.has 'f'
    let delimiter := (call.value? 'd').getD "\t"
    let delimiter := if delimiter = "" then "\x00" else delimiter
    match lists with
    | [] => misuse site "you must specify a list of bytes, characters, or fields" 1
    | _ :: _ :: _ => misuse site "only one list may be specified" 1
    | [(_, list)] =>
      if delimiter.length != 1 then misuse site "the delimiter must be a single character" 1
      else if call.has 'd' && !isFields then
        misuse site "an input delimiter may be specified only when operating on fields" 1
      else if call.has 's' && !isFields then
        misuse site
          "suppressing non-delimited lines makes sense\n\tonly when operating on fields" 1
      else
        match readRanges isFields (call.has 'C') list with
        | .error text => misuse site text 1
        | .ok ranges =>
          let mark := (delimiter.toList.head?).getD '\t'
          onFiles site input call.operands (cutText call mark ranges)

open Columns in
/-- Writes the lines of files side by side, or those of each file in one line. -/
def paste (site : Site) (words : List String) (input : Source) : Outcome :=
  withCall site pasteTable 1 words fun call =>
    let list := (call.value? 'd').getD "\t"
    match delimitersOf list.toList with
    | none =>
      fails site ("delimiter list ends with an unescaped backslash: " ++ list) 1
    | some delimiters =>
      let delimiters := if delimiters.isEmpty then [""] else delimiters
      let terminator := lineEndOf call 'z'
      let isSerial := call.has 's'
      let names := orInput call.operands
      let isThere (name : String) : Bool := (readText site input name).isOk
      let linesAt (name : String) : List String :=
        match readText site input name with
        | .ok text => (partsOf terminator text).1
        | .error _ => []
      let failures := forEach site (fun o name =>
        match readText site input name with
        | .ok _ => o
        | .error text => o.note (message site text) 1) names
      let columns := sharedColumns (names.filter isThere) isSerial
        (partsOf terminator input.text).1 linesAt
      if isSerial then
        failures.write (withEnds terminator (columns.map (joinWith delimiters)))
      else if failures.code != 0 then
        match failures.written with
        | first :: _ => { failures with written := [first] }
        | [] => failures
      else
        let longest := columns.foldl (fun n c => max n c.length) 0
        failures.write (withEnds terminator ((rowsOf longest columns).map (joinWith delimiters)))

end SnippetForge.Shell.Utility
