import SnippetForge.Shell.Format
import SnippetForge.Shell.Test
import SnippetForge.Shell.Utility.Options

/-!
# Programs that write words

Writing words as they are or by a format, series of numbers, the variables that are handed on, what
the system and its user are called, and the conditions that scripts ask about.
-/

namespace SnippetForge.Shell.Utility

/-! ### Words as they are -/

/-- The words that say how words are written, and the others. -/
def echoOptions : List String → List Char × List String
  | [] => ([], [])
  | word :: rest =>
    match word.toList with
    | '-' :: c :: cs =>
      if (c :: cs).all fun c => ['n', 'e', 'E'].contains c then
        let (letters, words) := echoOptions rest
        (c :: cs ++ letters, words)
      else ([], word :: rest)
    | _ => ([], word :: rest)

/-- Writes words; escapes stay, unless the option for them is given. -/
def plainEcho (words : List String) : String :=
  let (letters, words) := echoOptions words
  let text := " ".intercalate words
  let line := if letters.contains 'n' then "" else "\n"
  match letters.reverse.find? (· != 'n') with
  | some 'e' =>
    let (done, isComplete) := expandEscapes (text.length + 1) text.toList []
    String.ofList done.reverse ++ (if isComplete then line else "")
  | _ => text ++ line

/-! ### Words by a format -/

/-- What is said about a word that is taken for a number. -/
def numberComplaint (c : WordComplaint) : String :=
  marked c.1 ++ ": " ++
    match c.2 with
    | .noNumber => "expected a numeric value"
    | .partOnly => "value not completely converted"
    | .outOfRange => c.2.words

/-- What is said about a format. -/
def formatComplaint : FormatFlaw → String
  | .badDirective text => text ++ ": invalid conversion specification"
  | .openDirective => "%: invalid conversion specification"

/-- Writes words by a format. -/
def formatted (site : Site) (words : List String) : Outcome :=
  match if words.head? = some "--" then words.drop 1 else words with
  | [] => misuse site "missing operand" 1
  | format :: words =>
    let f := printf format words
    let o := f.complaints.foldl (fun o c => o.note (message site (numberComplaint c)) 1)
      (Outcome.nothing site)
    let o := o.write f.text
    match f.flaw, f.words with
    | some flaw, _ => o.note (message site (formatComplaint flaw)) 1
    | none, word :: _ =>
      if f.isComplete then
        o.note (message site ("warning: ignoring excess arguments, starting with " ++ marked word)) 0
      else o
    | none, [] => o

/-! ### Series -/

/-- A decimal number: a whole number of units, where a unit is a power of ten below one. -/
structure Decimal where
  units : Int
  places : Nat
  deriving DecidableEq, Repr

namespace Decimal

/-- A number in smaller units. -/
def unitsAt (a : Decimal) (places : Nat) : Int :=
  a.units * (Nat.pow 10 (places - a.places) : Nat)

/-- The number that a text spells, maybe with a sign, a point and an exponent. -/
def read? (text : String) : Option Decimal :=
  let (isNegative, cs) :=
    match text.toList with
    | '-' :: cs => (true, cs)
    | '+' :: cs => (false, cs)
    | cs => (false, cs)
  let whole := cs.takeWhile Char.isDigit
  let (fraction, rest) :=
    match cs.drop whole.length with
    | '.' :: rest => (rest.takeWhile Char.isDigit, rest.dropWhile Char.isDigit)
    | rest => ([], rest)
  let exponent? : Option Int :=
    match rest with
    | [] => some 0
    | e :: rest =>
      if e = 'e' || e = 'E' then
        (Text.integer? (String.ofList rest)).filter fun n => n.natAbs ≤ 1000
      else none
  match exponent? with
  | none => none
  | some exponent =>
    if whole.isEmpty && fraction.isEmpty then none
    else
      let n := Text.digitsValue (whole ++ fraction)
      let places := fraction.length - exponent
      let units := n * Nat.pow 10 (-places).toNat
      some ⟨if isNegative then -(units : Int) else units, places.toNat⟩

/-- A number with a fixed number of places. -/
def text (units : Int) (places : Nat) : String :=
  let digits := (Nat.toDigits 10 units.natAbs)
  let digits := List.replicate (places + 1 - digits.length) '0' ++ digits
  let whole := digits.take (digits.length - places)
  let fraction := digits.drop (digits.length - places)
  (if units < 0 then "-" else "") ++ String.ofList whole
    ++ (if places = 0 then "" else "." ++ String.ofList fraction)

end Decimal

/-- The numbers of a series, in units. `count` bounds how many there are. -/
def seriesFrom (step last : Int) : (count : Nat) → Int → List Int
  | 0, _ => []
  | count + 1, n =>
    if (0 < step && last < n) || (step < 0 && n < last) then []
    else n :: seriesFrom step last count (n + step)

/-- A text with zeros after its sign, up to a width. -/
def zeroFilled (width : Nat) (text : String) : String :=
  let zeros := String.ofList (List.replicate (width - text.length) '0')
  match text.toList with
  | '-' :: cs => "-" ++ zeros ++ String.ofList cs
  | _ => zeros ++ text

/-- A format for a number: what stands before and after its conversion. -/
structure NumberTemplate where
  front : String
  layout : Layout
  letter : Char
  back : String

/-- What is left after the percent sign of the first conversion, and what stands before it. -/
def splitDirective : List Char → List Char × Option (List Char)
  | [] => ([], none)
  | '%' :: '%' :: rest =>
    let (front, rest) := splitDirective rest
    ('%' :: front, rest)
  | '%' :: rest => ([], some rest)
  | c :: rest =>
    let (front, rest) := splitDirective rest
    (c :: front, rest)

/-- Reads a format for a number. -/
def readTemplate (text : String) : Except String NumberTemplate :=
  match splitDirective text.toList with
  | (_, none) => .error ("format " ++ marked text ++ " has no % directive")
  | (front, some rest) =>
    let (layout, _, after) := readLayout ⟨[], [], [], true, none⟩ rest
    match after with
    | [] => .error ("format " ++ marked text ++ " ends in %")
    | letter :: after =>
      if !"aefgAEFG".toList.contains letter then
        .error ("format " ++ marked text ++ " has unknown %" ++ String.singleton letter
          ++ " directive")
      else
        match splitDirective after with
        | (back, none) => .ok ⟨String.ofList front, layout, letter, String.ofList back⟩
        | _ => .error ("format " ++ marked text ++ " has too many % directives")

/-- The options of `seq`. -/
def seqTable : OptionTable :=
  ⟨"f:s:w", [("format", 'f'), ("separator", 's'), ("equal-width", 'w')]⟩

/-- Words in which negative numbers are no options. -/
def withNegatives : List String → List String
  | [] => []
  | word :: rest =>
    match word.toList with
    | '-' :: c :: _ =>
      if c.isDigit || c = '.' then "--" :: word :: rest else word :: withNegatives rest
    | _ => word :: withNegatives rest

/-- Writes a series of numbers from its bounds and its step. -/
def series (site : Site) (call : Call) (first step last : Decimal) : Outcome :=
  let places := max first.places step.places
  let fine := max places last.places
  let start := first.unitsAt fine
  let stride := step.unitsAt fine
  let count := ((last.unitsAt fine - start).natAbs / stride.natAbs) + 1
  let scale : Nat := Nat.pow 10 (fine - places)
  let numbers := seriesFrom stride (last.unitsAt fine) count start
  let plain (n : Int) : String := Decimal.text (n / scale) places
  let finish (texts : List String) : Outcome :=
    if texts.isEmpty then Outcome.nothing site
    else prints site (((call.value? 's').getD "\n").intercalate texts ++ "\n")
  match call.value? 'f' with
  | some text =>
    match readTemplate text with
    | .error text => fails site text 1
    | .ok t =>
      finish (numbers.map fun n =>
        t.front ++ t.layout.binary t.letter (Binary.ofSigned n (Nat.pow 10 fine)) ++ t.back)
  | none =>
    let texts := numbers.map plain
    let end? := plain (last.unitsAt fine)
    let width := (texts.head?.toList ++ [end?]).foldl (fun n t => max n t.length) 0
    finish (if call.has 'w' then texts.map (zeroFilled width) else texts)

/-- Writes a series of numbers. -/
def seq (site : Site) (words : List String) : Outcome :=
  withCall site seqTable 1 (withNegatives words) fun call =>
    let badNumber := call.operands.find? fun word => (Decimal.read? word).isNone
    match call.operands, badNumber with
    | [], _ => misuse site "missing operand" 1
    | _ :: _ :: _ :: word :: _, _ => misuse site ("extra operand " ++ marked word) 1
    | _, some word => misuse site ("invalid floating point argument: " ++ marked word) 1
    | words, none =>
      match words.filterMap Decimal.read? with
      | [last] => series site call ⟨1, 0⟩ ⟨1, 0⟩ last
      | [first, last] => series site call first ⟨1, 0⟩ last
      | [first, step, last] =>
        if step.units = 0 then
          misuse site ("invalid Zero increment value: " ++ marked ((words[1]?).getD "")) 1
        else series site call first step last
      | _ => Outcome.nothing site

/-! ### Variables -/

/-- Shows the variables that are handed on, or the values of some of them. -/
def printenv (site : Site) (words : List String) : Outcome :=
  withCall site ⟨"0", [("null", '0')]⟩ 2 words fun call =>
    let line := if call.has '0' then "\x00" else "\n"
    if call.operands.isEmpty then
      prints site (String.join (site.environment.map fun v => v.1 ++ "=" ++ v.2 ++ line))
    else
      let values := call.operands.filterMap fun name => site.environment.lookup name
      let o := prints site (String.join (values.map (· ++ line)))
      { o with code := if values.length = call.operands.length then 0 else 1 }

/-! ### The system and its user -/

/-- Shows a fixed text, unless there are operands. -/
def fixedText (text : String) (site : Site) (words : List String) : Outcome :=
  withCall site .empty 1 words fun call =>
    match call.operands with
    | [] => prints site (text ++ "\n")
    | word :: _ => misuse site ("extra operand " ++ marked word) 1

/-- The options of `id`. -/
def idTable : OptionTable :=
  ⟨"ugGnrza", [("user", 'u'), ("group", 'g'), ("groups", 'G'), ("name", 'n'), ("real", 'r')]⟩

/-- Says who runs the program. -/
def identity (site : Site) (words : List String) : Outcome :=
  withCall site idTable 1 words fun call =>
    match call.operands.find? (· != "root") with
    | some name => fails site (marked name ++ ": no such user") 1
    | none =>
      if call.hasAny "ugG" then prints site (if call.has 'n' then "root\n" else "0\n")
      else if call.hasAny "nr" then
        fails site "cannot print only names or real IDs in default format" 1
      else prints site "uid=0(root) gid=0(root) groups=0(root)\n"

/-- The options of `uname` with what they show, in the order in which it is shown. -/
def systemNames : List (Char × String) :=
  [('s', "Linux"), ('n', "localhost"), ('r', "6.1.0"), ('v', "#1 SMP"), ('m', "x86_64"),
    ('o', "GNU/Linux")]

/-- Says what the system is called. -/
def uname (site : Site) (words : List String) : Outcome :=
  let names := [("kernel-name", 's'), ("nodename", 'n'), ("kernel-release", 'r'),
    ("kernel-version", 'v'), ("machine", 'm'), ("operating-system", 'o'), ("all", 'a')]
  withCall site ⟨"snrvmoapi", names⟩ 1 words fun call =>
    match call.operands with
    | word :: _ => misuse site ("extra operand " ++ marked word) 1
    | [] =>
      let isShown (c : Char) : Bool :=
        call.has c || call.has 'a' || (c == 's' && call.options.isEmpty)
      prints site
        (" ".intercalate ((systemNames.filter fun e => isShown e.1).map (·.2)) ++ "\n")

/-! ### Conditions -/

/-- What is said about words that form no condition. -/
def testComplaint (words : List String) : Test.Flaw → String
  | .noNumber word => "invalid integer " ++ marked word
  | .unclosed => "missing argument after " ++ marked ((words.getLast?).getD "")
  | .missing operator => "missing argument after " ++ marked operator
  | .unexpected word =>
    match words with
    | [_, second] => "missing argument after " ++ marked second
    | [_, second, _] => marked second ++ ": binary operator expected"
    | _ => "extra argument " ++ marked word

/-- Decides a condition. -/
def test (site : Site) (words : List String) : Outcome :=
  match Test.evaluate site.disk site.cwd words with
  | .ok holds => ends site (if holds then 0 else 1)
  | .error flaw => fails site (testComplaint words flaw) 2

/-- Decides a condition that a bracket closes. -/
def bracketTest (site : Site) (words : List String) : Outcome :=
  if words.getLast? = some "]" then test site words.dropLast else fails site "missing ']'" 2

end SnippetForge.Shell.Utility
