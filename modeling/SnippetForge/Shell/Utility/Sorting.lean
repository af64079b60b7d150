import SnippetForge.Shell.Utility.Lines
import SnippetForge.Shell.Utility.Orders

/-!
# Sorting

The program that sorts the lines of files, merges files that are sorted, or checks that one is. Lines
are compared by their keys, which are parts of them, each in an order of its own; lines whose keys
are equal are compared as they are.
-/

namespace SnippetForge.Shell.Utility

namespace Sorting

/-! ### Keys -/

/-- How parts of lines are compared, by the letters of the options that say so. -/
structure Manner where
  letters : List Char
  deriving DecidableEq, Repr

/-- Whether a letter is given. -/
def Manner.has (m : Manner) (c : Char) : Bool :=
  m.letters.contains c

/-- Whether nothing is said. -/
def Manner.isUsual (m : Manner) : Bool :=
  m.letters.isEmpty

/-- A part of a line: from a character of a field to one of another, all counted from nothing. No
last field means the end of the line; no last character the end of the field. -/
structure Key where
  field : Nat
  char : Nat
  last : Option (Nat × Nat)
  /-- Whether blanks are left out before characters are counted at the start and at the end. -/
  skipsFirst : Bool
  skipsLast : Bool
  manner : Manner
  deriving DecidableEq, Repr

/-- The letters that keys may have. -/
def keyLetters : List Char :=
  ['b', 'd', 'f', 'g', 'h', 'i', 'M', 'n', 'R', 'r', 'V']

/-- Reads a number, or complains. -/
def readCount (complaint : String) (cs : List Char) : Except String (Nat × List Char) :=
  let digits := cs.takeWhile Char.isDigit
  if digits.isEmpty then
    .error (complaint ++ ": invalid count at start of " ++ marked (String.ofList cs))
  else .ok (Text.digitsValue digits, cs.drop digits.length)

/-- A complaint about a key. -/
def badKey (complaint text : String) : String :=
  complaint ++ ": invalid field specification " ++ marked text

/-- Reads a number that is not zero and counts from one; gives one that counts from nothing. -/
def readPositive (complaint zero text : String) (cs : List Char) :
    Except String (Nat × List Char) := do
  let (n, rest) ← readCount complaint cs
  if n = 0 then throw (badKey zero text) else return (n - 1, rest)

/-- Reads a key. -/
def readKey (text : String) : Except String Key := do
  let (field, rest) ←
    readPositive "invalid number at field start" "field number is zero" text text.toList
  let (char, rest) ←
    match rest with
    | '.' :: rest => readPositive "invalid number after '.'" "character offset is zero" text rest
    | rest => .ok (0, rest)
  let letters := rest.takeWhile keyLetters.contains
  let (last, more, rest) ←
    match rest.drop letters.length with
    | ',' :: rest => do
      let (field, rest) ← readPositive "invalid number after ','" "field number is zero" text rest
      let (char, rest) ←
        match rest with
        | '.' :: rest => readCount "invalid number after '.'" rest
        | rest => .ok (0, rest)
      let more := rest.takeWhile keyLetters.contains
      pure (some (field, char), more, rest.drop more.length)
    | rest => pure (none, [], rest)
  if rest.isEmpty then
    return ⟨field, char, last, letters.contains 'b', more.contains 'b',
      ⟨(letters ++ more).filter (· != 'b')⟩⟩
  else throw (badKey "stray character in field spec" text)

/-! ### Parts of lines -/

/-- The place after a field, the blanks before it included. -/
def pastField (cs : List Char) (place : Nat) : Nat :=
  let rest := cs.drop place
  let blanks := (rest.takeWhile isBreak).length
  place + blanks + ((rest.drop blanks).takeWhile fun c => !isBreak c).length

/-- The place of a separator from a place on, or of the end. -/
def separatorAt (separator : Char) (cs : List Char) (place : Nat) : Nat :=
  place + ((cs.drop place).takeWhile (· != separator)).length

/-- The place where a field starts. -/
def fieldStart (separator : Option Char) (cs : List Char) : (field : Nat) → Nat
  | 0 => 0
  | n + 1 =>
    let place := fieldStart separator cs n
    match separator with
    | some c => min cs.length (separatorAt c cs place + 1)
    | none => pastField cs place

/-- The place where a field ends. -/
def fieldEnd (separator : Option Char) (cs : List Char) (field : Nat) : Nat :=
  match separator with
  | some c => separatorAt c cs (fieldStart separator cs field)
  | none => fieldStart separator cs (field + 1)

/-- A place, or the one after the blanks there. -/
def pastBlanks (skips : Bool) (cs : List Char) (place : Nat) : Nat :=
  if skips then place + ((cs.drop place).takeWhile isBreak).length else place

/-- The part of a line that a key means. -/
def part (separator : Option Char) (k : Key) (cs : List Char) : List Char :=
  let first := pastBlanks k.skipsFirst cs (fieldStart separator cs k.field) + k.char
  let last :=
    match k.last with
    | none => cs.length
    | some (field, 0) => fieldEnd separator cs field
    | some (field, n) => pastBlanks k.skipsLast cs (fieldStart separator cs field) + n
  (cs.take last).drop first

/-! ### Comparing -/

/-- A part of a line as its characters are compared. -/
def shaped (m : Manner) (cs : List Char) : List Char :=
  let isKept (c : Char) : Bool :=
    if m.has 'd' then c.isAlphanum || isGap c
    else if m.has 'i' then 31 < c.toNat && c.toNat < 127
    else true
  let cs := if m.has 'd' || m.has 'i' then cs.filter isKept else cs
  if m.has 'f' then cs.map Char.toUpper else cs

/-- Compares two parts of lines. -/
def comparePart (m : Manner) (a b : List Char) : Ordering :=
  let result :=
    if m.has 'n' then compareNumbers a b
    else if m.has 'g' then compareMagnitudes a b
    else if m.has 'h' then compareSizes a b
    else if m.has 'M' then compare (monthRank a) (monthRank b)
    else if m.has 'V' then compareVersions (shaped m a) (shaped m b)
    else compareChars (shaped m a) (shaped m b)
  if m.has 'r' then result.swap else result

/-- How lines are sorted. -/
structure Rule where
  keys : List Key
  separator : Option Char
  isReversed : Bool
  isUnique : Bool
  isStable : Bool

/-- A line with its parts that are compared. -/
structure Line where
  text : List Char
  parts : List (List Char)

/-- A line with its parts. -/
def Rule.line (r : Rule) (text : List Char) : Line :=
  ⟨text, r.keys.map fun k => part r.separator k text⟩

/-- Compares two lines by their keys. -/
def Rule.compareKeys (r : Rule) (a b : Line) : Ordering :=
  (r.keys.zip (a.parts.zip b.parts)).foldl (fun result k =>
    if result != .eq then result else comparePart k.1.manner k.2.1 k.2.2) .eq

/-- Compares two lines; lines whose keys are equal are compared as they are. -/
def Rule.compare (r : Rule) (a b : Line) : Ordering :=
  let byKeys := r.compareKeys a b
  if byKeys != .eq || (!r.keys.isEmpty && (r.isUnique || r.isStable)) then byKeys
  else
    let whole := compareChars a.text b.text
    if r.isReversed then whole.swap else whole

/-! ### Options -/

/-- The options of `sort`. The letters beyond the plain ones stand for names only. -/
def table : OptionTable :=
  ⟨"bcCdfghik:mMno:rRsS:t:T:uVy:zχ::ρ:δφ:ξ:σ:β:π:",
    [("ignore-leading-blanks", 'b'), ("check", 'χ'), ("compress-program", 'ρ'), ("debug", 'δ'),
      ("dictionary-order", 'd'), ("ignore-case", 'f'), ("files0-from", 'φ'),
      ("general-numeric-sort", 'g'), ("ignore-nonprinting", 'i'), ("key", 'k'), ("merge", 'm'),
      ("month-sort", 'M'), ("numeric-sort", 'n'), ("human-numeric-sort", 'h'),
      ("version-sort", 'V'), ("random-sort", 'R'), ("random-source", 'ξ'), ("sort", 'σ'),
      ("output", 'o'), ("reverse", 'r'), ("stable", 's'), ("batch-size", 'β'),
      ("buffer-size", 'S'), ("field-separator", 't'), ("parallel", 'π'),
      ("temporary-directory", 'T'), ("unique", 'u'), ("zero-terminated", 'z')]⟩

/-- The words for ways to check. -/
def checkChoices : Choices Char :=
  [(["quiet", "silent"], 'C'), (["diagnose-first"], 'c')]

/-- The words for orders. -/
def orderChoices : Choices Char :=
  [(["general-numeric"], 'g'), (["human-numeric"], 'h'), (["month"], 'M'), (["numeric"], 'n'),
    (["random"], 'R'), (["version"], 'V')]

/-- Why options cannot be used: something is said, and the help may be pointed to. -/
structure Misuse where
  text : String
  showsHelp : Bool

/-- What the options say. -/
structure Request where
  letters : List Char
  keys : List Key
  separator : Option Char
  check : Option Char
  output : Option String

/-- A complaint about options that do not go together. -/
def clash (letters : List Char) : Misuse :=
  ⟨"options '-" ++ String.ofList letters ++ "' are incompatible", false⟩

/-- Whether a text is a number with at most a letter for its size. -/
def isSize (cs : List Char) : Bool :=
  let digits := cs.takeWhile Char.isDigit
  !digits.isEmpty && (match cs.drop digits.length with
    | [] => true
    | [c] => "bkKmMgGtTPEZY%".toList.contains c
    | _ => false)

/-- What the options say after one more. -/
def Request.add (r : Request) (o : Char × String) : Except Misuse Request :=
  let refuse (text : String) : Except Misuse Request := .error ⟨text, false⟩
  let wrong (name : String) : Except Misuse Request :=
    refuse ("invalid " ++ name ++ " argument " ++ inQuotes o.2)
  let checked (c : Char) : Except Misuse Request :=
    if r.check.any (· != c) then .error (clash ['c', 'C']) else .ok { r with check := some c }
  let chosen (c : Char) : Request := { r with letters := r.letters ++ [c] }
  match o.1 with
  | 'χ' =>
    if o.2 = "" then checked 'c'
    else
      match checkChoices.read "--check" o.2 with
      | .ok c => checked c
      | .error text => .error ⟨text, true⟩
  | 'c' => checked 'c'
  | 'C' => checked 'C'
  | 'σ' =>
    match orderChoices.read "--sort" o.2 with
    | .ok c => .ok (chosen c)
    | .error text => .error ⟨text, true⟩
  | 'k' =>
    match readKey o.2 with
    | .ok key => .ok { r with keys := r.keys ++ [key] }
    | .error text => refuse text
  | 'o' =>
    if r.output.any (· != o.2) then refuse "multiple output files specified"
    else .ok { r with output := some o.2 }
  | 't' =>
    let separator : Except Misuse Char :=
      match o.2.toList with
      | [] => .error ⟨"empty tab", false⟩
      | [c] => .ok c
      | ['\\', '0'] => .ok (Char.ofNat 0)
      | _ => .error ⟨"multi-character tab " ++ marked o.2, false⟩
    match separator with
    | .error flaw => .error flaw
    | .ok c =>
      if r.separator.any (· != c) then refuse "incompatible tabs"
      else .ok { r with separator := some c }
  | 'S' => if isSize o.2.toList then .ok r else wrong "-S"
  | 'π' => if isSize o.2.toList then .ok r else wrong "--parallel"
  | 'β' =>
    match Text.natural? o.2 with
    | none => wrong "--batch-size"
    | some n =>
      if n < 2 then
        refuse ("invalid --batch-size argument " ++ marked o.2
          ++ "\nminimum --batch-size argument is " ++ marked "2")
      else .ok r
  | c => .ok (if keyLetters.contains c then chosen c else r)

/-- The letters of a manner in the order in which they are told. -/
def mannerLetters : List Char :=
  ['d', 'f', 'g', 'h', 'i', 'M', 'n', 'R', 'V']

/-- Whether a manner asks for orders that do not go together. -/
def Manner.clashes (m : Manner) : Bool :=
  let single := (['n', 'g', 'h', 'M'].filter m.has).length
  1 < single + (if m.has 'V' || m.has 'R' || m.has 'd' || m.has 'i' then 1 else 0)

/-- The rule that a call asks for, or a complaint. A key without letters is compared as all lines
are. -/
def Request.rule (r : Request) (isUnique isStable : Bool) : Except Misuse Rule :=
  let usual : Manner := ⟨r.letters.filter (· != 'b')⟩
  let skips := r.letters.contains 'b'
  let keys := r.keys.map fun k =>
    if k.manner.isUsual && !k.skipsFirst && !k.skipsLast then
      { k with manner := usual, skipsFirst := skips, skipsLast := skips }
    else k
  let isPlain := usual.letters.all (· == 'r') && !skips
  let keys := if keys.isEmpty && !isPlain then [⟨0, 0, none, skips, skips, usual⟩] else keys
  match keys.find? (·.manner.clashes) with
  | some k =>
    let letters := mannerLetters.filter fun c =>
      k.manner.has c && !(c == 'i' && k.manner.has 'd')
    .error (clash letters)
  | none => .ok ⟨keys, r.separator, r.letters.contains 'r', isUnique, isStable⟩

/-! ### Sorted lines -/

/-- Keeps the first of neighbours that compare equal. -/
def dropRepeats (r : Rule) (lines : List Line) : List Line :=
  (lines.foldl (fun kept line =>
    if (kept.head?).any fun last => r.compare last line == .eq then kept
    else line :: kept) []).reverse

/-- Lists of lines as one: the least of the first lines comes first, and of equal ones that of an
earlier list. -/
def merged (r : Rule) (lists : List (List Line)) : List Line :=
  lists.foldl (fun all lines => all.merge lines fun a b => r.compare a b != .gt) []

/-- The first line that does not come after the one before, with its number. -/
def disorder? (r : Rule) (lines : List Line) : Option (Nat × List Char) :=
  ((lines.zip (lines.drop 1)).zip (List.range lines.length)).findSome? fun e =>
    let result := r.compare e.1.1 e.1.2
    if result = .gt || (r.isUnique && result = .eq) then some (e.2 + 2, e.1.2.text) else none

/-- The lines of a text. -/
def linesIn (terminator : Char) (text : String) : List (List Char) :=
  let parts := text.toList.splitOn terminator
  if parts.getLast? = some [] then parts.dropLast else parts

/-- Why a file cannot be read, if it cannot. -/
def unreadable? (site : Site) (input : Source) (isChecking : Bool) (name : String) :
    Option String :=
  match readWord site input name with
  | .ok _ => none
  | .error (.system .isDirectory) =>
    some ("read failed: " ++ nameText name ++ ": Is a directory")
  | .error fault =>
    some ((if isChecking then "open failed: " else "cannot read: ") ++ nameText name ++ ": "
      ++ wordsOf fault)

/-- Sorts, merges or checks the lines of files. -/
def sortFiles (site : Site) (input : Source) (call : Call) (request : Request) (r : Rule)
    (names : List String) : Outcome :=
  let terminator := if call.has 'z' then Char.ofNat 0 else '\n'
  let ending := String.singleton terminator
  let linesOf (name : String) : List Line :=
    match readText site input name with
    | .ok text => (linesIn terminator text).map r.line
    | .error _ => []
  match request.check, names.drop 1, request.output with
  | some c, other :: _, _ =>
    fails site ("extra operand " ++ quoted other ++ " not allowed with -" ++ String.singleton c) 2
  | some c, [], some _ => fails site (clash [c, 'o']).text 2
  | some c, [], none =>
    let name := names.headD "-"
    match unreadable? site input true name with
    | some text => fails site text 2
    | none =>
      match disorder? r (linesOf name) with
      | none => Outcome.nothing site
      | some (n, line) =>
        if c = 'C' then ends site 1
        else
          let text := site.label ++ ": " ++ name ++ ":" ++ toString n ++ ": disorder: "
            ++ String.ofList line ++ ending
          (Outcome.nothing site).note text 1
  | none, _, output =>
    let isMissing (name : String) : Bool :=
      match readWord site input name with
      | .error (.system .isDirectory) => false
      | .error _ => true
      | .ok _ => false
    let early := (names.filter isMissing).findSome? (unreadable? site input false)
    let opened : Except Fault Disk :=
      match output with
      | none => .ok site.disk
      | some target => site.disk.updateFile site.cwd (pathOf target) site.fileMode id
    match early, opened, names.findSome? (unreadable? site input false) with
    | some text, _, _ => fails site text 2
    | none, .error fault, _ =>
      fails site ("open failed: " ++ nameText (output.getD "") ++ ": " ++ wordsOf fault) 2
    | none, .ok disk, some text => (fails site text 2).onDisk disk
    | none, .ok disk, none =>
      let lists := names.map linesOf
      let sorted :=
        if call.has 'm' then merged r lists
        else lists.flatten.mergeSort fun a b => r.compare a b != .gt
      let lines := if r.isUnique then dropRepeats r sorted else sorted
      let out := String.join (lines.map fun line => String.ofList line.text ++ ending)
      match output with
      | none => prints site out
      | some target =>
        match disk.updateFile site.cwd (pathOf target) site.fileMode fun _ =>
            Text.octetBytes out with
        | .ok disk => (Outcome.nothing site).onDisk disk
        | .error fault =>
          fails site ("open failed: " ++ nameText target ++ ": " ++ wordsOf fault) 2

end Sorting

/-- Sorts the lines of all files together, or checks that they are sorted. -/
def sort (site : Site) (words : List String) (input : Source) : Outcome :=
  withCall site Sorting.table 2 words fun call =>
    let request := call.options.foldlM Sorting.Request.add ⟨[], [], none, none, none⟩
    let refuse (flaw : Sorting.Misuse) : Outcome :=
      if flaw.showsHelp then misuse site flaw.text 1
      else
        (flaw.text.splitOn "\n").foldl (fun o line => o.note (message site line) 2)
          (Outcome.nothing site)
    match request with
    | .error flaw => refuse flaw
    | .ok request =>
      let named : Except Outcome (List String) :=
        match call.value? 'φ' with
        | none => .ok (orInput call.operands)
        | some list =>
          match call.operands, readWord site input list with
          | operand :: _, _ =>
            .error (misuse site ("extra operand " ++ quoted operand
              ++ "\nfile operands cannot be combined with --files0-from") 2)
          | [], .error fault =>
            .error (fails site ("open failed: " ++ nameText list ++ ": " ++ wordsOf fault) 2)
          | [], .ok source =>
            match namesBetweenNuls source.text with
            | [] => .error (fails site ("no input from " ++ quoted list) 2)
            | names => .ok names
      match named, request.rule (call.has 'u') (call.has 's') with
      | .error o, _ => o
      | .ok _, .error flaw => refuse flaw
      | .ok names, .ok r => Sorting.sortFiles site input call request r names

end SnippetForge.Shell.Utility
