import SnippetForge.Shell.Pattern
import SnippetForge.Shell.Utility.Options
import SnippetForge.Text.Blank
import SnippetForge.Text.Width

/-!
# Programs for lines

Joining files, their first and last lines, counting, numbering, turning round and comparing lines.
-/

namespace SnippetForge.Shell.Utility

/-- Runs a program on what its words say and on its input. -/
abbrev Reader := Call → Outcome

/-! ### Joining -/

/-- The options of `cat`. -/
def catTable : OptionTable :=
  ⟨"nbsAEeTtvu",
    [("number", 'n'), ("number-nonblank", 'b'), ("squeeze-blank", 's'), ("show-all", 'A'),
      ("show-ends", 'E'), ("show-tabs", 'T'), ("show-nonprinting", 'v')]⟩

/-- A character as it is shown when all are to be visible. -/
def visible (c : Char) : String :=
  let low (n : Nat) : String :=
    if n < 32 then "^" ++ String.singleton (Char.ofNat (n + 64))
    else if n = 127 then "^?"
    else String.singleton (Char.ofNat n)
  if c = '\n' || c = '\t' then String.singleton c
  else if c.toNat < 128 then low c.toNat
  else "M-" ++ low (c.toNat - 128)

/-- Where a joined text is: the number of the last line, whether a line starts, and how many empty
lines have come last. -/
structure Joining where
  number : Nat
  atStart : Bool
  blanks : Nat

/-- A text as it is shown with numbers and marks. -/
def showChars (call : Call) : Joining → List Char → Joining × List String
  | k, [] => (k, [])
  | k, c :: rest =>
    let isBlank := k.atStart && c == '\n'
    if isBlank && call.has 's' && 0 < k.blanks then showChars call k rest
    else
      let isNumbered := k.atStart && (if call.has 'b' then !isBlank else call.has 'n')
      let front := if isNumbered then padLeft 6 (toString (k.number + 1)) ++ "\t" else ""
      let body :=
        if c = '\n' then (if call.hasAny "AEe" then "$\n" else "\n")
        else if c = '\t' && call.hasAny "ATt" then "^I"
        else if call.hasAny "Avet" then visible c
        else String.singleton c
      let next : Joining :=
        ⟨if isNumbered then k.number + 1 else k.number, c == '\n',
          if isBlank then k.blanks + 1 else 0⟩
      let (k, texts) := showChars call next rest
      (k, (front ++ body) :: texts)

/-- Whether the options of `cat` leave its input as it is. -/
def copiesInput (call : Call) : Bool :=
  !call.hasAny "nbsAEeTtv"

/-- Joins files. -/
def cat (site : Site) (words : List String) (input : Source) : Outcome :=
  withCall site catTable 1 words fun call =>
    let step (s : Outcome × Joining) (name : String) : Outcome × Joining :=
      let offset? := if namesInput name then none else site.outputOffset? (pathOf name)
      match readText site input name with
      | .error text => (s.1.note (message site text) 1, s.2)
      | .ok text =>
        if offset?.any fun n => 0 < n || s.1.written.any (·.1 == 1) then
          (s.1.note (message site (nameText name ++ ": input file is output file")) 1, s.2)
        else if copiesInput call then (s.1.write text, s.2)
        else
          let (k, texts) := showChars call s.2 text.toList
          (s.1.write (String.join texts), k)
    ((orInput call.operands).foldl step (Outcome.nothing site, ⟨0, true, 0⟩)).1

/-! ### Beginnings and ends -/

/-- How much of a text is meant: a number of lines or bytes, and whether it is counted from the other
end. -/
structure Extent where
  countsBytes : Bool
  fromOther : Bool
  count : Nat
  deriving DecidableEq, Repr

/-- The factors that letters after a number stand for. -/
def suffixFactors : List (String × Nat) :=
  [("", 1), ("b", 512), ("kB", 1000), ("k", 1024), ("K", 1024), ("KB", 1000), ("MB", 1000000),
    ("M", 1048576), ("m", 1048576), ("GB", 1000000000), ("G", 1073741824), ("KiB", 1024),
    ("MiB", 1048576)]

/-- A number with a letter for a factor. -/
def countOf? (cs : List Char) : Option Nat :=
  let digits := cs.takeWhile Char.isDigit
  match suffixFactors.lookup (String.ofList (cs.drop digits.length)) with
  | some factor => if digits.isEmpty then none else some (Text.digitsValue digits * factor)
  | none => none

/-- An extent by its text; `other` is the sign that makes it count from the other end. -/
def extentOf? (countsBytes : Bool) (other : Char) (text : String) : Option Extent :=
  match text.toList with
  | c :: cs =>
    if c = other then (countOf? cs).map fun n => ⟨countsBytes, true, n⟩
    else if c = '-' || c = '+' then (countOf? cs).map fun n => ⟨countsBytes, false, n⟩
    else (countOf? (c :: cs)).map fun n => ⟨countsBytes, false, n⟩
  | [] => none

/-- The options of `head` and `tail`. -/
def extentTable : OptionTable :=
  ⟨"n:c:qvzfFs:",
    [("lines", 'n'), ("bytes", 'c'), ("quiet", 'q'), ("silent", 'q'), ("verbose", 'v'),
      ("zero-terminated", 'z'), ("follow", 'f')]⟩

/-- Words in which a count right after a dash or a plus sign is the value of an option. -/
def withPlainCount (isTail : Bool) (words : List String) : List String :=
  match words with
  | word :: rest =>
    match word.toList with
    | '-' :: c :: cs =>
      if c.isDigit then
        let digits := (c :: cs).takeWhile Char.isDigit
        let letters := (c :: cs).drop digits.length
        let option := if letters.contains 'c' then "-c" else "-n"
        let others := letters.filter fun c => c != 'c' && c != 'l'
        let rest := if others.isEmpty then rest else String.ofList ('-' :: others) :: rest
        option :: String.ofList digits :: rest
      else word :: rest
    | '+' :: c :: cs =>
      if isTail && c.isDigit && (c :: cs).all Char.isDigit then "-n" :: word :: rest
      else word :: rest
    | _ => word :: rest
  | [] => []

/-- The extent that a call asks for, or a complaint. -/
def extentIn (call : Call) (other : Char) : Except String Extent :=
  match call.lastOf? "nc" with
  | none => .ok ⟨false, false, 10⟩
  | some c =>
    let value := (call.value? c).getD ""
    match extentOf? (c == 'c') other value with
    | some extent => .ok extent
    | none =>
      .error ("invalid number of " ++ (if c = 'c' then "bytes" else "lines") ++ ": "
        ++ marked (String.ofList (value.toList.dropWhile (· == '-'))))

/-- How many bytes the first lines of a text take. -/
def sizeOfLines : (count size : Nat) → List Char → Nat
  | 0, size, _ => size
  | _ + 1, size, [] => size
  | n + 1, size, c :: rest => sizeOfLines (if c = '\n' then n else n + 1) (size + 1) rest

/-- How many lines a text has, one without a line end included. -/
def countLines (text : String) : Nat :=
  let (lines, _) := linesOf text
  lines.length

/-- How many bytes of a text the beginning is that is meant. -/
def beginningSize (e : Extent) (text : String) : Nat :=
  let total := if e.countsBytes then text.length else countLines text
  let count := if e.fromOther then total - e.count else e.count
  if e.countsBytes then min count text.length else sizeOfLines count 0 text.toList

/-- The beginning of a source. -/
def beginning (e : Extent) : Source → String
  | .zeros => Text.octets (Source.zeros.first (if e.countsBytes then e.count else 0))
  | source => String.ofList (source.text.toList.take (beginningSize e source.text))

/-- The end of a text. -/
def ending (e : Extent) (text : String) : String :=
  let total := if e.countsBytes then text.length else countLines text
  let skipped := if e.fromOther then e.count - 1 else total - e.count
  let size := if e.countsBytes then skipped else sizeOfLines skipped 0 text.toList
  String.ofList (text.toList.drop size)

/-- The name of a file in a header. -/
def headerName (name : String) : String :=
  if name = "-" then "standard input" else name

/-- Writes a part of each file, with headers if there are several. -/
def partOfEach (site : Site) (call : Call) (input : Source) (part : Source → String) : Outcome :=
  let names := orInput call.operands
  let hasHeaders :=
    match call.lastOf? "qv" with
    | some c => c == 'v'
    | none => 1 < names.length
  let step (s : Outcome × Bool) (name : String) : Outcome × Bool :=
    let header := (if s.2 then "" else "\n") ++ "==> " ++ headerName name ++ " <==\n"
    match readWord site input name with
    | .ok source => (s.1.write ((if hasHeaders then header else "") ++ part source), false)
    | .error (.system .isDirectory) =>
      let o := if hasHeaders then s.1.write header else s.1
      (o.note (message site ("error reading " ++ quoted name ++ ": Is a directory")) 1, false)
    | .error fault =>
      (s.1.note (message site ("cannot open " ++ quoted name ++ " for reading: "
        ++ wordsOf fault)) 1, s.2)
  (names.foldl step (Outcome.nothing site, true)).1

/-- Writes the beginnings of files; none if more of the input is needed. What follows the beginning
of a file that is the input is left to others. -/
def head (site : Site) (words : List String) (supply : Supply) : Option Outcome :=
  match Call.read extentTable (withPlainCount false words) with
  | .error flaw => some (misuse site flaw.words 1)
  | .ok call =>
    match extentIn call '-' with
    | .error text => some (fails site text 1)
    | .ok e =>
      let size := beginningSize e supply.source.text
      let isThere :=
        if e.countsBytes then e.count ≤ supply.source.content.size
        else e.count ≤ (supply.source.text.toList.filter (· == '\n')).length
      let readsInput := (orInput call.operands).any namesInput
      if supply.isWhole || !readsInput || (isThere && !e.fromOther) then
        let outcome := partOfEach site call supply.source (beginning e)
        let taken := if !readsInput then some 0 else if supply.fileSize.isSome then some size else none
        some { outcome with taken := taken }
      else none

/-- Writes the ends of files. -/
def tail (site : Site) (words : List String) (input : Source) : Outcome :=
  withCall site extentTable 1 (withPlainCount true words) fun call =>
    match extentIn call '+' with
    | .error text => fails site text 1
    | .ok e => partOfEach site call input fun source => ending e source.text

/-! ### Counting -/

/-- What there is in a text: lines, words, characters and bytes, and the longest line. -/
structure Counts where
  lines : Nat
  words : Nat
  characters : Nat
  bytes : Nat
  widest : Nat

/-- No counts. -/
def Counts.zero : Counts :=
  ⟨0, 0, 0, 0, 0⟩

/-- Whether a character separates words. -/
def isSpace (c : Char) : Bool :=
  CharClass.space.holds c

/-- Whether a character separates the words that are counted. -/
def dividesWords (c : Char) : Bool :=
  if c.toNat < 128 then isSpace c
  else Text.isBlank c && c.toNat != 0x85 || c.toNat == 0x2060

/-- How many columns a character takes. -/
def columnsOf (c : Char) : Nat :=
  let n := c.toNat
  if n < 128 then (if 31 < n && n < 127 then 1 else 0)
  else if Text.isStray c || !hasSign c || Text.isAttached c then 0
  else if Text.isWide c then 2
  else 1

/-- Counting as far as it is: the words, whether a word goes on, and the column of the line. -/
structure Counting where
  words : Nat
  isInside : Bool
  column : Nat
  widest : Nat

/-- Counts one more character. -/
def Counting.step (k : Counting) (c : Char) : Counting :=
  let ends (column : Nat) : Counting :=
    { k with isInside := false, column := column, widest := max k.widest k.column }
  if c = '\n' || c = '\r' || c = '\x0c' then ends 0
  else if c = '\t' then ends (k.column / 8 * 8 + 8)
  else if c = '\x0b' then ends k.column
  else
    let columns := columnsOf c
    let isShown := if c.toNat < 128 then 0 < columns else !Text.isStray c && hasSign c
    if dividesWords c then ends (k.column + columns)
    else if !isShown then k
    else
      { k with
        words := if k.isInside then k.words else k.words + 1, isInside := true,
        column := k.column + columns }

/-- Counts a text. -/
def countsOf (text : String) : Counts :=
  let cs := charactersOf text
  let counted := cs.foldl Counting.step ⟨0, false, 0, 0⟩
  ⟨(cs.filter (· == '\n')).length, counted.words, (cs.filter fun c => !Text.isStray c).length,
    text.length, max counted.widest counted.column⟩

/-- Two counts together. -/
def Counts.add (a b : Counts) : Counts :=
  ⟨a.lines + b.lines, a.words + b.words, a.characters + b.characters, a.bytes + b.bytes,
    max a.widest b.widest⟩

/-- The options of `wc`. -/
def wcTable : OptionTable :=
  ⟨"lwcmLτ:φ:",
    [("lines", 'l'), ("words", 'w'), ("bytes", 'c'), ("chars", 'm'), ("max-line-length", 'L'),
      ("total", 'τ'), ("files0-from", 'φ')]⟩

/-- The counts that a call asks for. -/
def chosenCounts (call : Call) (k : Counts) : List Nat :=
  let chosen := fun (c : Char) (n : Nat) => if call.has c then [n] else []
  let all := chosen 'l' k.lines ++ chosen 'w' k.words ++ chosen 'm' k.characters
    ++ chosen 'c' k.bytes ++ chosen 'L' k.widest
  if call.hasAny "lwcmL" then all else [k.lines, k.words, k.bytes]

/-- The size of the file that a word names, if it is a regular file. -/
def fileSize? (site : Site) (word : String) : Option Nat :=
  if word = "-" then site.inputSize
  else
    match site.disk.target? site.cwd (pathOf word) with
    | some (.file content) => some content.size
    | _ => none

/-- How wide counts are written. -/
def countWidth (site : Site) (call : Call) (names : List String) : Nat :=
  let isSingle := names.length = 1 && (chosenCounts call .zero).length = 1
  let there := names.filter fun name =>
    name = "-" || site.disk.holds site.cwd (pathOf name)
  let total := (there.filterMap (fileSize? site)).foldl (· + ·) 0
  let least := if there.all fun name => (fileSize? site name).isSome then 1 else 7
  if isSingle || there.isEmpty then 1 else max least (toString total).length

/-- When the sum of all counts is written. -/
inductive TotalUse
  | auto
  | always
  | only
  | never
  deriving DecidableEq, Repr

/-- The words for when the sum of all counts is written. -/
def totalChoices : Choices TotalUse :=
  [(["auto"], .auto), (["always"], .always), (["only"], .only), (["never"], .never)]

/-- Counts lines, words and bytes of files. -/
def countFiles (site : Site) (input : Source) (call : Call) (use : TotalUse) (isPlain : Bool)
    (names : List String) (width : Nat) : Outcome :=
  let row (k : Counts) (name : String) (width : Nat) : String :=
    " ".intercalate ((chosenCounts call k).map fun n => padLeft width (toString n))
      ++ (if name = "" then "" else " " ++ name) ++ "\n"
  let step (s : Outcome × Counts) (name : String) : Outcome × Counts :=
    let o := s.1
    match readText site input name with
    | .ok text =>
      let k := countsOf text
      (if use = .only then o else o.write (row k (if isPlain then "" else name) width), s.2.add k)
    | .error text =>
      let o := o.note (message site text) 1
      let isShown := use != .only && site.disk.isDirectory site.cwd (pathOf name)
      (if isShown then o.write (row .zero name width) else o, s.2)
  let (o, total) := names.foldl step (Outcome.nothing site, .zero)
  match use with
  | .only => o.write (row total "" 1)
  | .always => o.write (row total "total" width)
  | .never => o
  | .auto => if 1 < names.length then o.write (row total "total" width) else o

/-- The names in a text that end in a character without a number. -/
def namesBetweenNuls (text : String) : List String :=
  let parts := text.toList.splitOn (Char.ofNat 0)
  (if parts.getLast? = some [] then parts.dropLast else parts).map String.ofList

/-- Counts lines, words and bytes. -/
def wc (site : Site) (words : List String) (input : Source) : Outcome :=
  withCall site wcTable 1 words fun call =>
    match totalChoices.read "--total" ((call.value? 'τ').getD "auto"), call.value? 'φ' with
    | .error text, _ => misuse site text 1
    | .ok use, none =>
      let names := orInput call.operands
      let width := if use = .only then 1 else countWidth site call names
      countFiles site input call use call.operands.isEmpty names width
    | .ok use, some source =>
      match call.operands, readWord site input source with
      | operand :: _, _ =>
        misuse site ("extra operand " ++ quoted operand
          ++ "\nfile operands cannot be combined with --files0-from") 1
      | [], .error fault =>
        fails site ("cannot open " ++ quoted source ++ " for reading: " ++ wordsOf fault) 1
      | [], .ok source' =>
        let names := namesBetweenNuls source'.text
        let width := if source = "-" then 1 else countWidth site call names
        countFiles site input call use false names width

/-! ### Turning round -/

/-- A text with its lines in reverse order. -/
def reversedLines (text : String) : String :=
  let (lines, isClosed) := linesOf text
  let pieces := lines.map (· ++ "\n")
  if isClosed then String.join pieces.reverse
  else
    match lines.reverse with
    | last :: before => last ++ String.join (before.map (· ++ "\n"))
    | [] => ""

/-- The options of `tac`. -/
def tacTable : OptionTable :=
  ⟨"brs:", []⟩

/-- Writes files with their lines in reverse order. -/
def tac (site : Site) (words : List String) (input : Source) : Outcome :=
  withCall site tacTable 1 words fun call =>
    forEach site (fun o name =>
      match readWord site input name with
      | .ok source => o.write (reversedLines source.text)
      | .error (.system .isDirectory) =>
        o.note (message site (nameText name ++ ": read error: Is a directory")) 1
      | .error fault =>
        o.note (message site ("failed to open " ++ quoted name ++ " for reading: "
          ++ wordsOf fault)) 1)
      (orInput call.operands)

/-- Writes every line with its characters in reverse order. -/
def rev (site : Site) (words : List String) (input : Source) : Outcome :=
  withCall site .empty 1 words fun call =>
    forEach site (fun o name =>
      match readWord site input name with
      | .ok source =>
        let (lines, isClosed) := linesOf source.text
        let turned := "\n".intercalate (lines.map fun l =>
          Text.octetsOf (String.ofList (charactersOf l).reverse))
        o.write (if isClosed && !lines.isEmpty then turned ++ "\n" else turned)
      | .error fault =>
        o.note (message site ("cannot open " ++ name ++ ": " ++ wordsOf fault)) 1)
      (orInput call.operands)

end SnippetForge.Shell.Utility
