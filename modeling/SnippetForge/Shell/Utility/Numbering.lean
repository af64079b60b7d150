import SnippetForge.Shell.Expression
import SnippetForge.Shell.Utility.Amounts

/-!
# Numbered lines

A text is a row of pages, each with a head, a body and a foot, and lines of delimiters alone tell
where these start. Each of the three has its own rule for which lines get a number.
-/

namespace SnippetForge.Shell.Utility

namespace Numbering

/-- The parts of a page. -/
inductive Section
  | head
  | body
  | foot
  deriving DecidableEq, Repr

/-- Which lines get a number. -/
inductive Style
  | all
  | filled
  | none
  | matching (e : Expression)

/-- How a number is written. -/
inductive Layout
  | left
  | right
  | rightWithZeros
  deriving DecidableEq, Repr

/-- What a call says about numbers. -/
structure Rule where
  style : Section → Style
  layout : Layout
  width : Nat
  separator : String
  start : Int
  step : Int
  /-- How many empty lines in a row count as one. -/
  blanks : Nat
  /-- Whether numbers start anew with each part of a page. -/
  restarts : Bool
  delimiter : String

/-- The options of `nl`. -/
def table : OptionTable :=
  ⟨"b:w:s:v:i:n:f:h:d:l:p",
    [("header-numbering", 'h'), ("body-numbering", 'b'), ("footer-numbering", 'f'),
      ("starting-line-number", 'v'), ("line-increment", 'i'), ("no-renumber", 'p'),
      ("join-blank-lines", 'l'), ("number-separator", 's'), ("number-width", 'w'),
      ("number-format", 'n'), ("section-delimiter", 'd')]⟩

/-! ### Reading a call -/

/-- The style that a word spells; none if it spells none, and a complaint about its expression. -/
def styleOf (text : String) : Except String (Option Style) :=
  match text.toList with
  | 'a' :: _ => .ok (some .all)
  | 't' :: _ => .ok (some .filled)
  | 'n' :: _ => .ok (some .none)
  | 'p' :: cs =>
    match Expression.read ⟨false, false⟩ (charactersOf (String.ofList cs)) with
    | .ok (e, _) => .ok (some (.matching e))
    | .error flaw => .error flaw.words
  | _ => .ok Option.none

/-- The layouts by their names. -/
def layouts : List (String × Layout) :=
  [("ln", .left), ("rn", .right), ("rz", .rightWithZeros)]

/-- A rule as far as it has been read, with the complaints that do not stop the reading. -/
structure Draft where
  rule : Rule
  complaints : List String

/-- The rule that holds if a call says nothing. -/
def Draft.usual : Draft :=
  let style (s : Section) : Style := if s = .body then .filled else .none
  ⟨⟨style, .right, 6, "\t", 1, 1, 1, true, "\\:"⟩, []⟩

/-- Reads one more option, or stops with a complaint. -/
def Draft.read (d : Draft) (o : Char × String) : Except String Draft := do
  let r := d.rule
  let (c, text) := o
  let number (purpose : String) (least most : Int) : Except String Int :=
    Amount.readFor purpose "" least most text
  let far : Int := Amount.mostSigned
  let styled (s : Section) (name : String) : Except String Draft := do
    match ← styleOf text with
    | some style =>
      return { d with rule := { r with style := fun t => if t = s then style else r.style t } }
    | Option.none =>
      let complaint := "invalid " ++ name ++ " numbering style: " ++ marked text
      return { d with complaints := d.complaints ++ [complaint] }
  match c with
  | 'h' => styled .head "header"
  | 'b' => styled .body "body"
  | 'f' => styled .foot "footer"
  | 'v' =>
    let n ← number "invalid starting line number" (-far - 1) far
    return { d with rule := { r with start := n } }
  | 'i' =>
    let n ← number "invalid line number increment" (-far - 1) far
    return { d with rule := { r with step := n } }
  | 'l' =>
    let n ← number "invalid line number of blank lines" 1 far
    return { d with rule := { r with blanks := n.toNat } }
  | 'w' =>
    let n ← number "invalid line number field width" 1 2147483647
    return { d with rule := { r with width := n.toNat } }
  | 's' => return { d with rule := { r with separator := text } }
  | 'p' => return { d with rule := { r with restarts := false } }
  | 'd' =>
    let delimiter := if text.length = 1 then text ++ ":" else text
    return { d with rule := { r with delimiter := delimiter } }
  | _ =>
    match layouts.lookup text with
    | some layout => return { d with rule := { r with layout := layout } }
    | Option.none =>
      let complaint := "invalid line number format: " ++ marked text
      return { d with complaints := d.complaints ++ [complaint] }

/-! ### Numbering -/

/-- A number as it is written before a line. -/
def Rule.numberText (r : Rule) (n : Int) : String :=
  let digits := toString n.natAbs
  let sign := if n < 0 then "-" else ""
  match r.layout with
  | .left => padRight r.width (sign ++ digits)
  | .right => padLeft r.width (sign ++ digits)
  | .rightWithZeros =>
    sign ++ String.ofList (List.replicate (r.width - sign.length - digits.length) '0') ++ digits

/-- The part of a page that a line starts. -/
def Rule.starts? (r : Rule) (line : String) : Option Section :=
  let repeated (n : Nat) : String := String.join (List.replicate n r.delimiter)
  if r.delimiter.length < 2 || line = "" then Option.none
  else if line = repeated 3 then some .head
  else if line = repeated 2 then some .body
  else if line = r.delimiter then some .foot
  else Option.none

/-- How far numbering has come: the next number, the part of the page, and how many empty lines have
come since the last one that got a number. -/
structure Progress where
  number : Int
  part : Section
  blanks : Nat

/-- Whether a line gets a number, and how many empty lines have come since the last one that got a
number. -/
def Rule.numbers (r : Rule) (p : Progress) (line : String) : Bool × Nat :=
  match r.style p.part with
  | .all =>
    if r.blanks ≤ 1 then (true, p.blanks)
    else if line != "" || p.blanks + 1 = r.blanks then (true, 0)
    else (false, p.blanks + 1)
  | .filled => (line != "", p.blanks)
  | .none => (false, p.blanks)
  | .matching e =>
    let s : Expression.Subject := ⟨(charactersOf line).toArray, false, false⟩
    ((Expression.find? s e 0).isSome, p.blanks)

/-- Numbers one more line. -/
def Rule.line (r : Rule) (p : Progress) (line : String) : Progress × String :=
  match r.starts? line with
  | some part => ({ p with part := part, number := if r.restarts then r.start else p.number }, "\n")
  | Option.none =>
    let (isNumbered, blanks) := r.numbers p line
    if isNumbered then
      ({ p with number := p.number + r.step, blanks := blanks },
        r.numberText p.number ++ r.separator ++ line ++ "\n")
    else
      let gap := String.ofList (List.replicate (r.width + r.separator.length) ' ')
      ({ p with blanks := blanks }, gap ++ line ++ "\n")

/-- Numbers the lines of a text. -/
def Rule.text (r : Rule) (p : Progress) (text : String) : Progress × String :=
  let step (s : Progress × List String) (line : String) : Progress × List String :=
    let (p, out) := r.line s.1 line
    (p, out :: s.2)
  let (p, outs) := (linesOf text).1.foldl step (p, [])
  (p, String.join outs.reverse)

end Numbering

open Numbering in
/-- Numbers lines. -/
def nl (site : Site) (words : List String) (input : Source) : Outcome :=
  withCall site Numbering.table 1 words fun call =>
    match call.options.foldlM Draft.read Draft.usual with
    | .error text => fails site text 1
    | .ok ⟨_, complaint :: complaints⟩ =>
      let o := (complaint :: complaints).foldl (fun o text => o.note (message site text) 1)
        (Outcome.nothing site)
      o.note (helpHint site ++ "\n") 1
    | .ok ⟨rule, []⟩ =>
      (throughFiles site input call.operands ⟨rule.start, .body, 0⟩ rule.text).1

end SnippetForge.Shell.Utility
