import SnippetForge.Shell.Utility.Amounts

/-!
# Columns of lines

Every octet of a line but some takes one column. Long lines are cut so that they fit a width, and
tabs and blanks are replaced by each other with regard to the columns at which tabs stop.
-/

namespace SnippetForge.Shell.Utility

namespace Widths

/-- Whether a character is a blank that takes columns. -/
def isBlank (c : Char) : Bool :=
  c == ' ' || c == '\t'

/-! ### Cutting -/

/-- The options of `fold`. -/
def foldTable : OptionTable :=
  ⟨"bsw:0::1::2::3::4::5::6::7::8::9::", [("bytes", 'b'), ("spaces", 's'), ("width", 'w')]⟩

/-- How lines are cut. -/
structure Cut where
  width : Nat
  /-- Whether every octet takes one column. -/
  countsOctets : Bool
  /-- Whether lines are cut after blanks. -/
  atBlanks : Bool

/-- The column after a character. -/
def Cut.after (k : Cut) (column : Nat) (c : Char) : Nat :=
  if k.countsOctets then column + 1
  else if c = '\x08' then column - 1
  else if c = '\r' then 0
  else if c = '\t' then column + 8 - column % 8
  else column + 1

/-- A line that is being filled: its characters, last one first, and its column. -/
structure Line where
  back : List Char
  column : Nat

/-- Puts a character into a line; gives the lines that are cut off before it. Each of them takes a
character from the line, so `fuel` is its length and one more. -/
def Cut.put (k : Cut) (c : Char) : (fuel : Nat) → Line → List (List Char) × Line
  | 0, line => ([], line)
  | fuel + 1, line =>
    let column := k.after line.column c
    if column ≤ k.width || line.back.isEmpty then ([], ⟨c :: line.back, column⟩)
    else
      let kept := if k.atBlanks then line.back.dropWhile (!isBlank ·) else []
      let (piece, rest) : List Char × List Char :=
        if kept.isEmpty then (line.back, [])
        else (kept, line.back.take (line.back.length - kept.length))
      let (pieces, line) := k.put c fuel ⟨rest, rest.reverse.foldl k.after 0⟩
      (piece.reverse :: pieces, line)

/-- Cuts the lines of a text. -/
def Cut.text (k : Cut) (text : String) : String :=
  let step (s : List (List Char) × Line) (c : Char) : List (List Char) × Line :=
    if c = '\n' then ((c :: s.2.back).reverse :: s.1, ⟨[], 0⟩)
    else
      let (pieces, line) := k.put c (s.2.back.length + 1) s.2
      ((pieces.map (· ++ ['\n'])).reverse ++ s.1, line)
  let (done, line) := text.toList.foldl step ([], ⟨[], 0⟩)
  String.ofList ((line.back.reverse :: done).reverse.flatten)

/-- How a call says that lines are cut, or a complaint. -/
def cutOf (call : Call) : Except String Cut := do
  let width ← call.options.foldlM (fun (width : Int) o =>
    if o.1 = 'w' || o.1.isDigit then
      let text := if o.1 = 'w' then o.2 else String.singleton o.1 ++ o.2
      Amount.readFor "invalid number of columns" "" 1 (Amount.mostUnsigned - 9) text
    else .ok width) 80
  return ⟨width.toNat, call.has 'b', call.has 's'⟩

/-! ### Where tabs stop -/

/-- The columns at which tabs stop: those of a list, and after them those at equal distances, which
are counted from the start of the line or from the last one of the list. -/
structure Stops where
  columns : List Nat
  every : Option Nat
  onward : Option Nat
  deriving DecidableEq, Repr

/-- What a number in a list of stops means. -/
inductive StopKind
  | column
  | every
  | onward
  deriving DecidableEq, Repr

/-- A list of stops that is being read: the number that has been begun and what numbers mean. -/
structure Draft where
  stops : Stops
  number : Option Nat
  kind : StopKind

/-- Ends the number that has been begun. -/
def Draft.finish (d : Draft) : Except String Draft :=
  let d' := { d with number := none }
  match d.number, d.kind with
  | none, _ => .ok d'
  | some n, .column => .ok { d' with stops := { d.stops with columns := d.stops.columns ++ [n] } }
  | some n, .every =>
    if d.stops.every.isSome then .error "'/' specifier only allowed with the last value"
    else .ok { d' with stops := { d.stops with every := if n = 0 then none else some n } }
  | some n, .onward =>
    if d.stops.onward.isSome then .error "'+' specifier only allowed with the last value"
    else .ok { d' with stops := { d.stops with onward := if n = 0 then none else some n } }

/-- Reads a list of stops, or complains. -/
def readStops (d : Draft) : List Char → Except String Draft
  | [] => d.finish
  | c :: rest =>
    let misplaced := "'" ++ String.singleton c ++ "' specifier not at start of number: "
      ++ marked (String.ofList (c :: rest))
    if c = ',' || isBlank c then
      match d.finish with
      | .ok d => readStops d rest
      | .error text => .error text
    else if c = '/' || c = '+' then
      if d.number.isSome then .error misplaced
      else readStops { d with kind := if c = '/' then .every else .onward } rest
    else if c.isDigit then
      let n := d.number.getD 0 * 10 + (c.toNat - 48)
      if Amount.mostUnsigned < n then
        .error ("tab stop is too large " ++ marked (toString (d.number.getD 0)
          ++ String.ofList ((c :: rest).takeWhile Char.isDigit)))
      else readStops { d with number := some n } rest
    else
      .error ("tab size contains invalid character(s): " ++ marked (String.ofList (c :: rest)))

/-- Checks that columns rise, the one before them being given. -/
def checkRising : (before : Nat) → List Nat → Except String Unit
  | _, [] => .ok ()
  | before, n :: rest =>
    if n = 0 then .error "tab size cannot be 0"
    else if n ≤ before then .error "tab sizes must be ascending"
    else checkRising n rest

/-- Checks stops; those that are not given are 8 columns apart. -/
def Stops.checked (s : Stops) : Except String Stops := do
  checkRising 0 s.columns
  if s.every.isSome && s.onward.isSome then throw "'/' specifier is mutually exclusive with '+'"
  match s.columns, s.every, s.onward with
  | [], none, none => return ⟨[], some 8, none⟩
  | [], none, some n => return ⟨[], some n, none⟩
  | [n], none, none => return ⟨[], some n, none⟩
  | _, _, _ => return s

/-- The next stop after a column, if there is one. -/
def Stops.next? (s : Stops) (column : Nat) : Option Nat :=
  match s.columns.find? (column < ·), s.every, s.onward with
  | some stop, _, _ => some stop
  | none, some n, _ => some (column + (n - column % n))
  | none, none, some n =>
    let last := (s.columns.getLast?).getD 0
    some (column + (n - (column - last) % n))
  | none, none, none => none

/-- The stops that the values of options give, or a complaint. -/
def stopsOf (texts : List String) : Except String Stops := do
  let start : Draft := ⟨⟨[], none, none⟩, none, .column⟩
  let d ← texts.foldlM (fun (d : Draft) text =>
    readStops { d with number := none, kind := .column } text.toList) start
  d.stops.checked

/-! ### Tabs to blanks -/

/-- The options of `expand`. -/
def expandTable : OptionTable :=
  ⟨"it:0::1::2::3::4::5::6::7::8::9::", [("tabs", 't'), ("initial", 'i')]⟩

/-- A line in which tabs are being replaced: its column, and whether tabs are still replaced. -/
structure Tabs where
  column : Nat
  isOn : Bool

/-- Passes over one more character. -/
def Tabs.step (stops : Stops) (all : Bool) (s : Tabs) (c : Char) : Tabs × List Char :=
  if c = '\n' then (⟨0, true⟩, [c])
  else if !s.isOn then (s, [c])
  else if c = '\t' then
    let stop := (stops.next? s.column).getD (s.column + 1)
    (⟨stop, true⟩, List.replicate (stop - s.column) ' ')
  else if c = '\x08' then (⟨s.column - 1, all⟩, [c])
  else (⟨s.column + 1, all || isBlank c⟩, [c])

/-! ### Blanks to tabs -/

/-- The options of `unexpand`. -/
def unexpandTable : OptionTable :=
  ⟨",0123456789at:φ", [("tabs", 't'), ("all", 'a'), ("first-only", 'φ')]⟩

/-- A line in which blanks are being replaced: its column, and whether blanks are still replaced. -/
structure Blanks where
  column : Nat
  isOn : Bool
  afterBlank : Bool
  /-- The blanks that are held back, last one first. -/
  held : List Char
  /-- Whether there was a single blank right before a stop. -/
  isSingle : Bool

/-- The start of a line. -/
def Blanks.start : Blanks :=
  ⟨0, true, true, [], false⟩

/-- The blanks that are held back as they are written. -/
def Blanks.text (s : Blanks) : List Char :=
  match s.held.reverse with
  | first :: second :: rest => (if s.isSingle then '\t' else first) :: second :: rest
  | held => held

/-- Passes over one more character. -/
def Blanks.step (stops : Stops) (all : Bool) (s : Blanks) (c : Char) : Blanks × List Char :=
  let write (s : Blanks) (c : Char) (isBlankNow : Bool) : Blanks × List Char :=
    if c = '\n' then (.start, s.text ++ [c])
    else
      ({ s with
          held := [], isSingle := false, afterBlank := isBlankNow,
          isOn := s.isOn && (all || isBlankNow) },
        s.text ++ [c])
  if !s.isOn then if c = '\n' then (.start, [c]) else (s, [c])
  else if isBlank c then
    match stops.next? s.column with
    | none => write { s with isOn := false } c true
    | some stop =>
      if c = '\t' || (s.afterBlank && s.column + 1 = stop) then
        write { s with column := stop, held := if s.isSingle then ['\t'] else [] } '\t' true
      else
        ({ s with
            column := s.column + 1, isSingle := s.isSingle || s.column + 1 = stop,
            held := c :: s.held, afterBlank := true }, [])
  else if c = '\x08' then write { s with column := s.column - 1 } c false
  else write { s with column := s.column + 1 } c false

/-- Passes over the characters of a text. -/
def passOver {σ : Type} (step : σ → Char → σ × List Char) (start : σ) (text : String) :
    σ × String :=
  let go (s : σ × List (List Char)) (c : Char) : σ × List (List Char) :=
    let (next, out) := step s.1 c
    (next, out :: s.2)
  let (last, outs) := text.toList.foldl go (start, [])
  (last, String.ofList outs.reverse.flatten)

/-- The texts of stops that are given by digits and commas which are options. -/
def plainStops (call : Call) : List String :=
  let cs := (call.options.map (·.1)).filter fun c => c.isDigit || c == ','
  if cs.isEmpty then [] else [String.ofList cs]

end Widths

open Widths in
/-- Cuts long lines. -/
def fold (site : Site) (words : List String) (input : Source) : Outcome :=
  withCall site foldTable 1 words fun call =>
    match cutOf call with
    | .error text => fails site text 1
    | .ok k => onFiles site input call.operands k.text

open Widths in
/-- Replaces tabs by blanks. -/
def expand (site : Site) (words : List String) (input : Source) : Outcome :=
  withCall site expandTable 1 words fun call =>
    let texts := call.options.filterMap fun o =>
      if o.1 = 't' then some o.2
      else if o.1.isDigit then some (String.singleton o.1 ++ o.2)
      else none
    match stopsOf texts with
    | .error text => fails site text 1
    | .ok stops =>
      let step := Tabs.step stops (!call.has 'i')
      (throughFiles site input call.operands ⟨0, true⟩ (passOver step)).1

open Widths in
/-- Replaces blanks by tabs. -/
def unexpand (site : Site) (words : List String) (input : Source) : Outcome :=
  withCall site unexpandTable 1 words fun call =>
    match stopsOf (call.values 't' ++ plainStops call) with
    | .error text => fails site text 1
    | .ok stops =>
      let all := call.hasAny "at" && !call.has 'φ'
      let (o, last) :=
        throughFiles site input call.operands .start (passOver (Blanks.step stops all))
      o.write (String.ofList last.text)

end SnippetForge.Shell.Utility
