import SnippetForge.Shell.Utility.Lines

/-!
# Programs on words from the input

How `xargs` makes words of its input and hands them to a program, as many at a time as it is asked
to. Blanks and line ends separate the words unless they are quoted; another separator can be named,
and then nothing is quoted.
-/

namespace SnippetForge.Shell.Utility

/-! ### Words -/

/-- What the input is cut into: words, and the ends of lines that hold some. -/
inductive InputPiece
  | word (text : String)
  | lineEnd
  deriving DecidableEq, Repr

/-- A word that is finished, if one was begun, in front of other pieces. -/
def withWord (current : Option (List Char)) (pieces : List InputPiece) : List InputPiece :=
  match current with
  | some cs => .word (String.ofList cs.reverse) :: pieces
  | none => pieces

/-- The pieces of an input, and the quotation mark that is left open, if one is. If `isByLine` only
line ends separate words. `quote` is the mark of the quotation that is being read, `current` the
word so far, last character first, and `afterBlank` tells whether a blank was the last character. -/
def piecesOf (isByLine : Bool) : (quote : Option Char) → (current : Option (List Char)) →
    (afterBlank : Bool) → List Char → List InputPiece × Option Char
  | none, current, _, [] => (withWord current [.lineEnd], none)
  | some q, _, _, [] => ([], some q)
  | some q, current, _, c :: rest =>
    if c = '\n' then ([], some q)
    else if c = q then piecesOf isByLine none (some (current.getD [])) false rest
    else piecesOf isByLine (some q) (some (c :: current.getD [])) false rest
  | none, current, _, '\\' :: c :: rest =>
    piecesOf isByLine none (some (c :: current.getD [])) false rest
  | none, current, afterBlank, c :: rest =>
    if c = '\'' || c = '"' then piecesOf isByLine (some c) (some (current.getD [])) false rest
    else if c = '\n' then
      let (pieces, flaw) := piecesOf isByLine none none false rest
      let pieces := if afterBlank && current.isNone then pieces else .lineEnd :: pieces
      (withWord current pieces, flaw)
    else if c = ' ' || c = '\t' then
      match current, isByLine with
      | none, _ => piecesOf isByLine none none true rest
      | some cs, true => piecesOf isByLine none (some (c :: cs)) false rest
      | some cs, false =>
        let (pieces, flaw) := piecesOf isByLine none none true rest
        (.word (String.ofList cs.reverse) :: pieces, flaw)
    else piecesOf isByLine none (some (c :: current.getD [])) false rest

/-- The words of some pieces. -/
def wordsOfPieces (pieces : List InputPiece) : List String :=
  pieces.filterMap fun piece =>
    match piece with
    | .word text => some text
    | .lineEnd => none

/-- The words of some pieces, line by line; lines without words are left out. -/
def linesOfPieces : (current : List String) → List InputPiece → List (List String)
  | current, [] => if current.isEmpty then [] else [current.reverse]
  | current, .word text :: rest => linesOfPieces (text :: current) rest
  | current, .lineEnd :: rest =>
    if current.isEmpty then linesOfPieces [] rest
    else current.reverse :: linesOfPieces [] rest

/-- The parts of a text between separators; the last separator ends the text. -/
def partsBetween (separator : Char) (text : String) : List String :=
  let parts := text.toList.splitOn separator
  (if parts.getLast? = some [] then parts.dropLast else parts).map String.ofList

/-! ### Calls -/

/-- The options of `xargs`. -/
def batchTable : OptionTable :=
  ⟨"0a:d:E:e::I:i::L:l::n:P:rs:txpo",
    [("null", '0'), ("arg-file", 'a'), ("delimiter", 'd'), ("eof", 'e'), ("replace", 'i'),
      ("max-lines", 'l'), ("max-args", 'n'), ("max-procs", 'P'), ("no-run-if-empty", 'r'),
      ("max-chars", 's'), ("verbose", 't'), ("exit", 'x'), ("interactive", 'p'),
      ("open-tty", 'o')]⟩

/-- How many words a program gets at a time. -/
inductive BatchSize
  | all
  | words (n : Nat)
  | lines (n : Nat)
  /-- One line at a time, in the place of a mark among the words of the program. -/
  | mark (text : String)
  deriving DecidableEq, Repr

/-- The names by which messages call an option for batches that was replaced, and one that has
replaced it. -/
def sizeNames (c : Char) : String × String :=
  if c = 'n' then ("--max-args", "--max-args/-n")
  else if c = 'L' then ("--max-lines", "-L")
  else if c = 'l' then ("--max-lines", "--max-lines/-l")
  else ("--replace", "--replace/-I/-i")

/-- The options for batches among others. A single word at a time goes with a mark. -/
def sizeOptions (options : List (Char × String)) : List (Char × String) :=
  options.foldl (fun kept o =>
    if !"nLlIi".toList.contains o.1 then kept
    else if o.1 = 'n' && o.2 = "1" && (kept.getLast?).any (fun k => k.1 == 'I' || k.1 == 'i') then
      kept
    else kept ++ [o]) []

/-- The warnings about options for batches that replace each other. -/
def sizeWarnings : List Char → List String
  | a :: b :: rest =>
    let (old, _) := sizeNames a
    let own :=
      if old = (sizeNames b).1 then []
      else
        ["warning: options " ++ old ++ " and " ++ (sizeNames b).2
          ++ " are mutually exclusive, ignoring previous " ++ old ++ " value"]
    own ++ sizeWarnings (b :: rest)
  | _ => []

/-- The number of an option, or a complaint. -/
def batchNumber (c : Char) (least : Nat) (text : String) : Except String Nat :=
  match Text.integer? text with
  | some n =>
    if n < least then
      .error ("value " ++ text ++ " for -" ++ String.singleton c ++ " option should be >= "
        ++ toString least)
    else .ok n.toNat
  | none => .error ("invalid number \"" ++ text ++ "\" for -" ++ String.singleton c ++ " option")

/-- The size of batches that options ask for; the last one counts. -/
def batchSize (options : List (Char × String)) : Except String BatchSize :=
  options.foldlM (fun size o =>
    match o.1 with
    | 'n' => (batchNumber 'n' 1 o.2).map BatchSize.words
    | 'L' => (batchNumber 'L' 1 o.2).map BatchSize.lines
    | 'l' => if o.2 = "" then .ok (.lines 1) else (batchNumber 'l' 1 o.2).map BatchSize.lines
    | 'I' => .ok (.mark o.2)
    | 'i' => .ok (.mark (if o.2 = "" then "\x7b\x7d" else o.2))
    | _ => .ok size) .all

/-- How many bytes the words of a program may take together. -/
def mostBytes : Nat := 131072

/-- How many bytes may be asked for. -/
def bytesLimit : Nat := 2095021

/-- How many bytes the words of a program may take together, and a warning if others are asked
for; or a complaint. -/
def byteLimit (call : Call) : Except String (Nat × List String) :=
  match call.value? 's' with
  | none => .ok (mostBytes, [])
  | some text =>
    match Text.integer? text, batchNumber 's' 1 text with
    | some _, .error warning => .ok (1, [warning])
    | _, .error text => .error text
    | _, .ok n =>
      if bytesLimit < n then
        .ok (mostBytes,
          ["value " ++ text ++ " for -s option should be <= " ++ toString bytesLimit])
      else .ok (n, [])

/-- The character that a separator with a backslash means, or a complaint. -/
def escapedSeparator (word : String) (cs : List Char) : Except String Char :=
  let flawed := "Invalid escape sequence " ++ word ++ " in input delimiter specification"
  let numbered (base : Nat) (digits : List Char) : Except String Char :=
    match digits.mapM fun c => (Text.hexValue? c).filter (· < base) with
    | some values =>
      let n := values.foldl (fun n v => n * base + v) 0
      if 255 < n then
        .error (flawed ++ "; character values must not exceed "
          ++ (if base = 8 then "377" else "ff") ++ ".")
      else .ok (Char.ofNat n)
    | none =>
      let rest := digits.dropWhile fun c => ((Text.hexValue? c).filter (· < base)).isSome
      .error (flawed ++ "; trailing characters " ++ String.ofList rest ++ " not recognised.")
  match cs with
  | ['a'] => .ok '\x07'
  | ['b'] => .ok '\x08'
  | ['f'] => .ok '\x0c'
  | ['n'] => .ok '\n'
  | ['r'] => .ok '\r'
  | ['t'] => .ok '\t'
  | ['v'] => .ok '\x0b'
  | ['\\'] => .ok '\\'
  | 'x' :: digits => numbered 16 digits
  | '0' :: digits => numbered 8 digits
  | digit :: digits =>
    if digit.isDigit then numbered 8 (digit :: digits) else .error (flawed ++ ".")
  | [] => .error (flawed ++ ".")

/-- The character that separates words, if one is named, or a complaint. -/
def separatorIn (call : Call) : Except String (Option Char) :=
  match call.lastOf? "0d" with
  | some '0' => .ok (some (Char.ofNat 0))
  | some _ =>
    let word := (call.value? 'd').getD ""
    match word.toList with
    | [c] => .ok (some c)
    | '\\' :: cs => (escapedSeparator word cs).map some
    | _ =>
      .error ("Invalid input delimiter specification " ++ word ++ ": the delimiter must be either"
        ++ " a single character or an escape sequence starting with \\.")
  | none => .ok none

/-! ### Batches -/

/-- The bytes that some words take, each with its end. -/
def wordBytes (words : List String) : Nat :=
  words.foldl (fun n word => n + word.length + 1) 0

/-- When a batch is complete. -/
structure BatchRule where
  /-- It has so many words. -/
  words : Option Nat
  /-- It has the words of so many lines. -/
  lines : Option Nat
  /-- How many bytes its words may take. -/
  room : Nat
  /-- Whether it is a flaw that there is no room. -/
  isStrict : Bool

/-- What is to be done with the words of an input. -/
structure BatchPlan where
  /-- The batches that are complete. -/
  batches : List (List String)
  /-- The words of the last batch, if that is not complete. -/
  pending : List String
  /-- What goes wrong in the end. -/
  flaw : Option String

/-- A batch in front of the others of a plan. -/
def BatchPlan.cons (batch : List String) (p : BatchPlan) : BatchPlan :=
  { p with batches := batch :: p.batches }

/-- The plan for some pieces of an input. `current` are the words of the batch so far, last word
first, `left` is the room they leave, `lines` counts the lines they are from, and `isOpen` tells
whether the last line goes on. -/
def planOf (r : BatchRule) : (current : List String) → (left lines : Nat) → (isOpen : Bool) →
    List InputPiece → BatchPlan
  | current, _, _, _, [] => ⟨[], current.reverse, none⟩
  | current, left, lines, isOpen, .lineEnd :: rest =>
    if !isOpen then planOf r current left lines false rest
    else if r.lines.any (· ≤ lines + 1) then
      (planOf r [] r.room 0 false rest).cons current.reverse
    else planOf r current left (lines + 1) false rest
  | current, left, lines, _, .word word :: rest =>
    let size := word.length + 1
    if left < size && r.isStrict then ⟨[], [], some "argument list too long"⟩
    else
      let isFull := left < size && !current.isEmpty
      let words := if isFull then [word] else word :: current
      let left := (if isFull then r.room else left) - size
      let plan :=
        if r.words.any (· ≤ words.length) then
          (planOf r [] r.room lines true rest).cons words.reverse
        else planOf r words left lines true rest
      if isFull then plan.cons current.reverse else plan

/-- The words of a program in which each line in turn stands in the place of a mark. -/
def markedPlan (mark : String) (bytes : Nat) (program : List String) :
    List (List String) → BatchPlan
  | [] => ⟨[], [], none⟩
  | line :: rest =>
    let words := program.take 1 ++ (program.drop 1).map fun word =>
      (" ".intercalate line).intercalate (if mark = "" then [word] else word.splitOn mark)
    if wordBytes words ≤ bytes then (markedPlan mark bytes program rest).cons words
    else if wordBytes (words.take 1) ≤ bytes then ⟨[], [], some "argument list too long"⟩
    else ⟨[], [], some "cannot fit single argument within argument list size limit"⟩

/-- The code of a batch in which a program has failed. -/
def batchFailure : Nat := 123

/-- The step that starts a program, after it has been written down if asked to. -/
def batchStart (isShown : Bool) (words : List String) : List BatchStep :=
  let line := " ".intercalate (words.map nameText) ++ "\n"
  (if isShown then [BatchStep.write 2 line] else []) ++ [.start words batchFailure]

/-- The mark of a call, if lines take its place. -/
def markOf? : BatchSize → Option String
  | .mark text => some text
  | _ => none

/-- The pieces of an input, and what is wrong with it. No word may be longer than `longest`. -/
def inputPieces (call : Call) (separator : Option Char) (isByLine : Bool) (longest : Nat)
    (text : String) : List InputPiece × Option String :=
  let (pieces, openQuote) : List InputPiece × Option Char :=
    match separator with
    | some c => ((partsBetween c text).flatMap fun part => [.word part, .lineEnd], none)
    | none => piecesOf isByLine none none false text.toList
  let isLast (piece : InputPiece) : Bool :=
    match call.lastOf? "Ee" with
    | some c =>
      let last := (call.value? c).getD ""
      last != "" && separator.isNone && piece == .word last
    | none => false
  let fits : InputPiece → Bool
    | .word word => word.length ≤ longest
    | .lineEnd => true
  let read := pieces.takeWhile fun piece => !isLast piece
  if read.any fun piece => !fits piece then
    (read.takeWhile fits, some "argument line too long")
  else if read.length < pieces.length then (read, none)
  else
    (read, openQuote.map fun quote =>
      "unmatched " ++ (if quote = '"' then "double" else "single")
        ++ " quote; by default quotes are special to xargs unless you use the -0 option")

/-- The plan for an input. -/
def planFor (call : Call) (size : BatchSize) (separator : Option Char) (bytes : Nat)
    (program : List String) (text : String) : BatchPlan :=
  let initial := if (markOf? size).isSome then 0 else wordBytes program
  let longest := bytes - initial - 1
  let (pieces, flaw) :=
    inputPieces call separator (markOf? size).isSome longest text
  let room := bytes - initial
  let rule : BatchRule :=
    match size with
    | .words n => ⟨some n, none, room, call.has 'x'⟩
    | .lines n => ⟨none, some n, room, true⟩
    | _ => ⟨none, none, room, false⟩
  if bytes < initial then
    ⟨[], [], some "cannot fit single argument within argument list size limit"⟩
  else
    let plan :=
      match markOf? size with
      | some mark => markedPlan mark bytes program (linesOfPieces [] pieces)
      | none =>
        let plan := planOf rule [] room 0 false pieces
        { plan with
          batches := plan.batches.map (program ++ ·),
          pending := if plan.pending.isEmpty then [] else program ++ plan.pending }
    match plan.flaw, flaw with
    | none, some text =>
      { plan with pending := if call.has 'x' || rule.isStrict then [] else plan.pending,
                  flaw := some text }
    | _, _ => plan

/-- What is done with an input, and the code in the end. When the input proves flawed the last batch
still runs, so what is said about the flaw comes first. -/
def batchSteps (site : Site) (call : Call) (size : BatchSize) (separator : Option Char)
    (bytes : Nat) (text : String) : List BatchStep × Nat :=
  let program := if call.operands.isEmpty then ["echo"] else call.operands
  let plan := planFor call size separator bytes program text
  let pending := if plan.pending.isEmpty then [] else [plan.pending]
  let batches := plan.batches ++ pending
  let start := batchStart (call.has 't')
  match plan.flaw with
  | some text =>
    let last := (batches.getLast?).toList.flatMap start
    (batches.dropLast.flatMap start ++ [BatchStep.write 2 (message site text)] ++ last, 1)
  | none =>
    let batches :=
      if batches.isEmpty && (markOf? size).isNone && !call.has 'r' then [program] else batches
    match call.has 'p', batches with
    | true, words :: _ =>
      let asked := " ".intercalate (words.map nameText)
      let refused := "failed to open /dev/tty for reading: No such device or address"
      ([BatchStep.write 2 (asked ++ message site refused)], 1)
    | _, _ => (batches.flatMap start, 0)

/-- What the options of a call say about batches: their size and how many bytes one may take, with
warnings about that; or a complaint. -/
def batchOptions (call : Call) : Except String (BatchSize × Nat × List String) := do
  let _ ← (call.values 'P').mapM (batchNumber 'P' 0)
  let size ← batchSize (sizeOptions call.options)
  let (bytes, warnings) ← byteLimit call
  return (size, bytes, warnings)

/-- What `xargs` does on an input of its own or the given one, and the code in the end. -/
def xargs (site : Site) (words : List String) (input : Source) : List BatchStep × Nat :=
  let say (text : String) : BatchStep := .write 2 (message site text)
  let refuse (text : String) : List BatchStep × Nat :=
    ([.write 2 (message site text ++ helpHint site ++ "\n")], 1)
  match Call.readLeading batchTable words with
  | .error flaw => refuse flaw.words
  | .ok call =>
    match separatorIn call, batchOptions call, (call.value? 'a').map (readPath site site.disk) with
    | .error text, _, _ => ([say text], 1)
    | _, .error text, _ => refuse text
    | _, _, some (.error fault) =>
      let name := marked ((call.value? 'a').getD "")
      ([say ("Cannot open input file " ++ name ++ ": " ++ wordsOf fault)], 1)
    | .ok separator, .ok (size, bytes, warnings), source =>
      let text :=
        match source with
        | some (.ok source) => source.text
        | _ => input.text
      let replaced := sizeWarnings ((sizeOptions call.options).map (·.1))
      let (steps, code) := batchSteps site call size separator bytes text
      ((replaced ++ warnings).map say ++ steps, code)

end SnippetForge.Shell.Utility
