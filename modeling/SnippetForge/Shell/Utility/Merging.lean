import SnippetForge.Shell.Utility.Amounts

/-!
# Two sorted files at a time

Lines of two sorted files are gone through together: to tell which stand in one of them alone and
which in both, or to join those that share a field. A file that proves to be unsorted is told once,
when it matters or when it is asked for.
-/

namespace SnippetForge.Shell.Utility

namespace Merging

/-! ### Files in order -/

/-- When it is told that a file is not sorted. -/
inductive OrderCheck
  /-- Once some line has no partner. -/
  | whenAlone
  | always
  | never
  deriving DecidableEq, Repr

/-- The check that a call asks for. -/
def OrderCheck.ofCall (call : Call) : OrderCheck :=
  match call.lastOf? "κν" with
  | some 'κ' => .always
  | some _ => .never
  | none => .whenAlone

/-- Whether an order is checked. -/
def OrderCheck.isOn (k : OrderCheck) (isAlone : Bool) : Bool :=
  match k with
  | .always => true
  | .whenAlone => isAlone
  | .never => false

/-- How two lists of characters are ordered: below zero, zero or above. -/
def compareTexts (a b : List Char) : Int :=
  if a = b then 0 else if a < b then -1 else 1

/-! ### Alone and together -/

/-- The options of `comm`. -/
def commTable : OptionTable :=
  ⟨"123zκνδ:τ",
    [("check-order", 'κ'), ("nocheck-order", 'ν'), ("output-delimiter", 'δ'), ("total", 'τ'),
      ("zero-terminated", 'z')]⟩

/-- A file that is gone through: its number, the lines that are left, and the two lines before,
last one first. -/
structure Pass where
  number : Nat
  left : List String
  before : List String
  isTold : Bool

/-- Goes on in a file after a line; tells if the file proves to be unsorted. -/
def Pass.next (site : Site) (k : OrderCheck) (isAlone : Bool) (p : Pass) (o : Outcome) :
    Pass × Outcome :=
  match p.left with
  | [] => (p, o)
  | line :: rest =>
    let p := { p with left := rest, before := line :: p.before.take 1 }
    let pair : Option (String × String) :=
      match rest, p.before with
      | next :: _, line :: _ => some (line, next)
      | [], line :: previous :: _ => some (previous, line)
      | [], _ => none
      | _, [] => none
    let isWrong := pair.any fun e => decide (e.2 < e.1)
    if k.isOn isAlone && isWrong && !p.isTold then
      let text := "file " ++ toString p.number ++ " is not in sorted order"
      ({ p with isTold := true }, o.note (message site text) 1)
    else (p, o)

/-- How lines are told apart. -/
structure Columns where
  hasFirst : Bool
  hasSecond : Bool
  hasBoth : Bool
  separator : String
  terminator : Char

/-- A line that belongs to the first file (0), to the second one (1) or to both. -/
def Columns.line (k : Columns) (column : Nat) (line : String) : String :=
  let tab (isThere : Bool) : String := if isThere then k.separator else ""
  let finish (front : String) : String := front ++ line ++ String.singleton k.terminator
  match column with
  | 0 => if k.hasFirst then finish "" else ""
  | 1 => if k.hasSecond then finish (tab k.hasFirst) else ""
  | _ => if k.hasBoth then finish (tab k.hasFirst ++ tab k.hasSecond) else ""

/-- Goes through two files. `counts` are how many lines belong to the first, the second and both. -/
def compareAll (site : Site) (columns : Columns) (k : OrderCheck) :
    (fuel : Nat) → (isAlone : Bool) → (counts : Nat × Nat × Nat) → Pass → Pass → Outcome →
      (Nat × Nat × Nat) × Pass × Pass × Outcome
  | 0, _, counts, a, b, o => (counts, a, b, o)
  | fuel + 1, isAlone, counts, a, b, o =>
    let stops (o : Outcome) : Bool := k = .always && o.code != 0
    let go (column : Nat) (line : String) : (Nat × Nat × Nat) × Pass × Pass × Outcome :=
      let (x, y, z) := counts
      let counts := match column with
        | 0 => (x + 1, y, z)
        | 1 => (x, y + 1, z)
        | _ => (x, y, z + 1)
      let isAlone := isAlone || column != 2
      let o := o.write (columns.line column line)
      let (a, o) := if column = 1 then (a, o) else a.next site k isAlone o
      if stops o then (counts, a, b, o)
      else
        let (b, o) := if column = 0 then (b, o) else b.next site k isAlone o
        if stops o then (counts, a, b, o) else compareAll site columns k fuel isAlone counts a b o
    match a.left, b.left with
    | [], [] => (counts, a, b, o)
    | x :: _, [] => go 0 x
    | [], y :: _ => go 1 y
    | x :: _, y :: _ => if x = y then go 2 y else if x < y then go 0 x else go 1 y

/-! ### Joining -/

/-- The options of `join`. -/
def joinTable : OptionTable :=
  ⟨"a:e:i1:2:j:o:t:v:zκνη",
    [("ignore-case", 'i'), ("check-order", 'κ'), ("nocheck-order", 'ν'), ("zero-terminated", 'z'),
      ("header", 'η')]⟩

/-- How fields are told apart. -/
inductive FieldRule
  | blanks
  | char (c : Char)
  /-- A line is one field. -/
  | whole

/-- A line with its fields. -/
structure Row where
  line : String
  fields : List String
  deriving DecidableEq, Repr

/-- The fields of a line. -/
def FieldRule.fields (k : FieldRule) (line : String) : List String :=
  let isBlank (c : Char) : Bool := c == ' ' || c == '\t' || c == '\n'
  match k with
  | .whole => if line = "" then [] else [line]
  | .char c => if line = "" then [] else (line.toList.splitOn c).map String.ofList
  | .blanks =>
    let words := (line.toList.splitOnP isBlank).filter (!·.isEmpty)
    let ends := !words.isEmpty && (line.toList.getLast?).any isBlank
    words.map String.ofList ++ (if ends then [""] else [])

/-- A field of what is written: the field that is shared, or one of the first or second file. -/
inductive OutField
  | shared
  | ofFile (isSecond : Bool) (number : Nat)
  deriving DecidableEq, Repr

/-- What lines are joined by, and what is written. -/
structure JoinRule where
  fields : FieldRule
  /-- The number of the field that is shared, counted from zero, in each file. -/
  first : Nat
  second : Nat
  ignoresCase : Bool
  filler : String
  format : Option (List OutField)
  /-- How many fields are written of each file, if these are given by its first line. -/
  counts : Option (Nat × Nat)
  showsFirst : Bool
  showsSecond : Bool
  showsPairs : Bool
  check : OrderCheck
  terminator : Char

namespace JoinRule

/-- What separates fields that are written. -/
def separator (r : JoinRule) : String :=
  match r.fields with
  | .blanks => " "
  | .char c => String.singleton c
  | .whole => "\n"

/-- The field of a row by which it is joined. -/
def keyOf (r : JoinRule) (isSecond : Bool) (row : Row) : List Char :=
  let cs := ((row.fields[if isSecond then r.second else r.first]?).getD "").toList
  if r.ignoresCase then cs.map Char.toUpper else cs

/-- A field of a row, or what stands for a field that is not there. -/
def fieldText (r : JoinRule) (row : Option Row) (number : Nat) : String :=
  let text := ((row.bind fun row => row.fields[number]?)).getD ""
  if text = "" then r.filler else text

/-- The line for two rows, or for one that is alone. -/
def text (r : JoinRule) (a b : Option Row) : String :=
  let shared := if a.isSome then r.fieldText a r.first else r.fieldText b r.second
  let others (row : Option Row) (own : Nat) (count : Option Nat) : List String :=
    let n := count.getD ((row.map (·.fields.length)).getD 0)
    ((List.range n).filter (· != own)).map (r.fieldText row)
  let items :=
    match r.format with
    | some fields =>
      fields.map fun f =>
        match f with
        | .shared => shared
        | .ofFile isSecond number => r.fieldText (if isSecond then b else a) number
    | none =>
      shared :: others a r.first (r.counts.map (·.1)) ++ others b r.second (r.counts.map (·.2))
  r.separator.intercalate items ++ String.singleton r.terminator

end JoinRule

/-- A file whose rows are joined: its name, the rows that are left, the number of the row that was
read last and that row itself. -/
structure Stream where
  name : String
  isSecond : Bool
  left : List Row
  number : Nat
  last : Option Row
  isTold : Bool

/-- Reads a row; tells if the file proves to be unsorted. -/
def Stream.read (site : Site) (r : JoinRule) (isAlone : Bool) (s : Stream) (o : Outcome) :
    Option Row × Stream × Outcome :=
  match s.left with
  | [] => (none, s, o)
  | row :: rest =>
    let isWrong := s.last.any fun last =>
      0 < compareTexts (r.keyOf s.isSecond last) (r.keyOf s.isSecond row)
    let s := { s with left := rest, number := s.number + 1, last := some row }
    if r.check.isOn isAlone && isWrong && !s.isTold then
      let text := s.name ++ ":" ++ toString s.number ++ ": is not sorted: " ++ row.line
      (some row, { s with isTold := true }, o.note (message site text) 1)
    else (some row, s, o)

/-- Reads rows as long as they share a field: these, and the row that does not. -/
def Stream.readSame (site : Site) (r : JoinRule) (isAlone : Bool) (key : List Char) :
    (fuel : Nat) → Stream → Outcome → List Row × Option Row × Stream × Outcome
  | 0, s, o => ([], none, s, o)
  | fuel + 1, s, o =>
    match s.read site r isAlone o with
    | (none, s, o) => ([], none, s, o)
    | (some row, s, o) =>
      if compareTexts key (r.keyOf s.isSecond row) = 0 then
        let (rows, next, s, o) := Stream.readSame site r isAlone key fuel s o
        (row :: rows, next, s, o)
      else ([], some row, s, o)

/-- What a joining has come to: a row of each file, if there is one, the rest of the files, whether
some row had no partner, and what was done. -/
structure JoinState where
  first : Option Row
  second : Option Row
  one : Stream
  two : Stream
  isAlone : Bool
  outcome : Outcome

/-- Whether a joining has to stop. -/
def JoinState.isOver (r : JoinRule) (s : JoinState) : Bool :=
  r.check = .always && s.outcome.code != 0

/-- Joins rows as long as both files have some. -/
def joinRows (site : Site) (r : JoinRule) : (fuel : Nat) → JoinState → JoinState
  | 0, s => s
  | fuel + 1, s =>
    if s.isOver r then s
    else
      match s.first, s.second with
      | some a, some b =>
        let order := compareTexts (r.keyOf false a) (r.keyOf true b)
        if order < 0 then
          let o := if r.showsFirst then s.outcome.write (r.text (some a) none) else s.outcome
          let (next, one, o) := s.one.read site r s.isAlone o
          joinRows site r fuel { s with first := next, one := one, isAlone := true, outcome := o }
        else if 0 < order then
          let o := if r.showsSecond then s.outcome.write (r.text none (some b)) else s.outcome
          let (next, two, o) := s.two.read site r s.isAlone o
          joinRows site r fuel { s with second := next, two := two, isAlone := true, outcome := o }
        else
          let key := r.keyOf false a
          let (as, nextA, one, o) :=
            s.one.readSame site r s.isAlone key (s.one.left.length + 1) s.outcome
          let stops (o : Outcome) : Bool := r.check = .always && o.code != 0
          let (bs, nextB, two, o) :=
            if stops o then ([], none, s.two, o)
            else s.two.readSame site r s.isAlone key (s.two.left.length + 1) o
          let pairs := (a :: as).flatMap fun x => (b :: bs).map fun y => r.text (some x) (some y)
          let o := if r.showsPairs && !stops o then o.write (String.join pairs) else o
          joinRows site r fuel
            { s with first := nextA, second := nextB, one := one, two := two, outcome := o }
      | _, _ => s

/-- Goes through the rows of a file that is left when the other one has ended. -/
def finishRows (site : Site) (r : JoinRule) (isShown isAlone : Bool) :
    (fuel : Nat) → Stream → Outcome → Stream × Outcome
  | 0, s, o => (s, o)
  | fuel + 1, s, o =>
    match s.read site r isAlone o with
    | (none, s, o) => (s, o)
    | (some row, s, o) =>
      let text := if s.isSecond then r.text none (some row) else r.text (some row) none
      if r.check = .always && o.code != 0 then (s, o)
      else
        let o := if isShown then o.write text else o
        if s.isTold && !isShown then (s, o) else finishRows site r isShown isAlone fuel s o

/-- Goes through what is left of one of the files. -/
def JoinState.finishFile (site : Site) (r : JoinRule) (isSecond : Bool) (s : JoinState) :
    JoinState :=
  let row := if isSecond then s.second else s.first
  let isShown := if isSecond then r.showsSecond else r.showsFirst
  let checksEnd := r.check != .never && !(s.one.isTold && s.two.isTold)
  match row with
  | none => s
  | some row =>
    if s.isOver r || !(isShown || checksEnd) then s
    else
      let text := if isSecond then r.text none (some row) else r.text (some row) none
      let o := if isShown then s.outcome.write text else s.outcome
      let hasOther := (if isSecond then s.first else s.second).isSome
      let isAlone := s.isAlone || hasOther
      let stream := if isSecond then s.two else s.one
      let (stream, o) := finishRows site r isShown isAlone (stream.left.length + 1) stream o
      let s := { s with isAlone := isAlone, outcome := o }
      if isSecond then { s with two := stream } else { s with one := stream }

/-- Joins two files. -/
def joinAll (site : Site) (r : JoinRule) (hasHeader : Bool) (one two : Stream) : Outcome :=
  let start : JoinState := ⟨none, none, one, two, false, Outcome.nothing site⟩
  let readBoth (s : JoinState) : JoinState :=
    let (a, one, o) := s.one.read site r s.isAlone s.outcome
    let (b, two, o) := s.two.read site r s.isAlone o
    { s with first := a, second := b, one := one, two := two, outcome := o }
  let s := readBoth start
  let s :=
    if hasHeader && (s.first.isSome || s.second.isSome) then
      let o := s.outcome.write (r.text s.first s.second)
      readBoth
        { s with
          one := { s.one with last := none }, two := { s.two with last := none }, outcome := o }
    else s
  let s := joinRows site r (one.left.length + two.left.length + 1) s
  let s := (s.finishFile site r false).finishFile site r true
  if (s.one.isTold || s.two.isTold) && r.check != .always then
    s.outcome.note (message site "input is not in sorted order") 1
  else s.outcome

/-! ### Calls -/

/-- The number of a field, counted from zero, or a complaint. -/
def fieldNumber (text : String) : Except String Nat :=
  match Amount.read "" 0 Amount.mostUnsigned text with
  | .ok n => if n = 0 then .error ("invalid field number: " ++ marked text) else .ok (n.toNat - 1)
  | .error .noNumber => .error ("invalid field number: " ++ marked text)
  | .error _ => .ok Amount.mostUnsigned

/-- A field of a format, or a complaint. -/
def outField (text : String) : Except String OutField :=
  match text.toList with
  | ['0'] => .ok .shared
  | '1' :: '.' :: cs => (fieldNumber (String.ofList cs)).map (.ofFile false)
  | '2' :: '.' :: cs => (fieldNumber (String.ofList cs)).map (.ofFile true)
  | c :: _ =>
    if c = '0' || c = '1' || c = '2' then .error ("invalid field specifier: " ++ marked text)
    else .error ("invalid file number in field spec: " ++ marked text)
  | [] => .error ("invalid file number in field spec: " ++ marked text)

/-- The number of a file whose rows are shown, or a complaint. -/
def fileNumber (text : String) : Except String Nat :=
  if text = "1" || text = "2" then .ok (if text = "1" then 1 else 2)
  else .error ("invalid field number: " ++ marked text)

/-- How fields are told apart by a call, or a complaint. -/
def fieldRule (call : Call) : Except String FieldRule :=
  match call.value? 't' with
  | none => .ok .blanks
  | some "" => .ok .whole
  | some "\\0" => .ok (.char (Char.ofNat 0))
  | some text =>
    match text.toList with
    | [c] => .ok (.char c)
    | _ => .error ("multi-character tab " ++ marked text)

/-- What a call says about joining, or a complaint. -/
def joinRule (call : Call) : Except String JoinRule := do
  let fields ← fieldRule call
  let field (c : Char) : Except String (Option Nat) :=
    match call.options.reverse.find? fun o => o.1 == c || o.1 == 'j' with
    | some o => (fieldNumber o.2).map some
    | none => .ok none
  let first ← field '1'
  let second ← field '2'
  let shown ← ((call.values 'a') ++ call.values 'v').mapM fileNumber
  let lists := (call.values 'o').filter (· != "auto")
  let isGap (c : Char) : Bool := c == ',' || c == ' ' || c == '\t'
  let specs := lists.flatMap fun list => (list.toList.splitOnP isGap).map String.ofList
  let format ← specs.mapM outField
  return {
    fields := fields, first := first.getD 0, second := second.getD 0, ignoresCase := call.has 'i',
    filler := (call.value? 'e').getD "", format := if lists.isEmpty then none else some format,
    counts := none, showsFirst := shown.contains 1, showsSecond := shown.contains 2,
    showsPairs := !call.has 'v', check := .ofCall call, terminator := lineEndOf call 'z' }

end Merging

/-! ### The programs -/

/-- Goes on with the two files that the operands of a call name. `spell` shows an operand that is
one too many. -/
def withTwoFiles (site : Site) (input : Source) (call : Call) (spell : String → String)
    (use : (a b : String × String) → Outcome) : Outcome :=
  match call.operands with
  | [] => misuse site "missing operand" 1
  | [word] => misuse site ("missing operand after " ++ marked word) 1
  | _ :: _ :: word :: _ => misuse site ("extra operand " ++ spell word) 1
  | [a, b] =>
    match readText site input a, readText site input b with
    | .error text, _ => fails site text 1
    | _, .error text => fails site text 1
    | .ok as, .ok bs => use (a, as) (b, bs)

open Merging in
/-- Compares two sorted files line by line. -/
def comm (site : Site) (words : List String) (input : Source) : Outcome :=
  withCall site commTable 1 words fun call =>
    withTwoFiles site input call marked fun a b =>
      let separator :=
        match call.value? 'δ' with
        | some "" => "\x00"
        | some text => text
        | none => "\t"
      let terminator := lineEndOf call 'z'
      let columns : Columns :=
        ⟨!call.has '1', !call.has '2', !call.has '3', separator, terminator⟩
      let passOf (number : Nat) (text : String) : Pass :=
        ⟨number, (partsOf terminator text).1, [], false⟩
      let one := passOf 1 a.2
      let two := passOf 2 b.2
      let k := OrderCheck.ofCall call
      let ((x, y, z), one, two, o) :=
        compareAll site columns k (one.left.length + two.left.length + 1) false (0, 0, 0) one two
          (Outcome.nothing site)
      let isTold := one.isTold || two.isTold
      if k = .always && isTold then o
      else
        let totals := separator.intercalate [toString x, toString y, toString z, "total"]
        let o := if call.has 'τ' then o.write (totals ++ String.singleton terminator) else o
        if isTold then o.note (message site "input is not in sorted order") 1 else o

open Merging in
/-- Joins the lines of two files that share a field. -/
def join (site : Site) (words : List String) (input : Source) : Outcome :=
  withCall site joinTable 1 words fun call =>
    match joinRule call with
    | .error text => fails site text 1
    | .ok r =>
      withTwoFiles site input call quoted fun a b =>
        let streamOf (isSecond : Bool) (file : String × String) : Stream :=
          let rows := (partsOf r.terminator file.2).1.map fun line => ⟨line, r.fields.fields line⟩
          ⟨file.1, isSecond, rows, 0, none, false⟩
        let one := streamOf false a
        let two := streamOf true b
        let countOf (s : Stream) : Nat := ((s.left.head?).map (·.fields.length)).getD 0
        let isAuto := (call.value? 'o') = some "auto"
        let counts := if isAuto then some (countOf one, countOf two) else none
        joinAll site { r with counts := counts } (call.has 'η') one two

end SnippetForge.Shell.Utility
