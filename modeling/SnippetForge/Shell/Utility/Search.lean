import SnippetForge.Shell.Utility.Finder

/-!
# Finding lines

The program that finds the lines of files, or of its input, that match one of some patterns. It shows
the lines, the lines around them, what has matched, how many there are, or only the names of the
files, in colours if it is asked to. A file that is no text is only said to match.
-/

namespace SnippetForge.Shell.Utility

/-! ### Options -/

/-- The options of `grep`. The letters beyond the plain ones stand for names only. -/
def grepTable : OptionTable :=
  ⟨"0123456789A:B:C:D:EFGHILPTUVX:abcd:e:f:hiLlm:noqRrsuvwxyZzβ:κ::ε:ξ:δ:σ:τι:ν:λμ",
    [("basic-regexp", 'G'), ("extended-regexp", 'E'), ("fixed-regexp", 'F'),
      ("fixed-strings", 'F'), ("perl-regexp", 'P'), ("after-context", 'A'),
      ("before-context", 'B'), ("binary-files", 'β'), ("binary", 'U'), ("byte-offset", 'b'),
      ("context", 'C'), ("color", 'κ'), ("colour", 'κ'), ("count", 'c'), ("devices", 'D'),
      ("directories", 'd'), ("exclude", 'ε'), ("exclude-from", 'ξ'), ("exclude-dir", 'δ'),
      ("file", 'f'), ("files-with-matches", 'l'), ("files-without-match", 'L'),
      ("group-separator", 'σ'), ("include", 'ι'), ("ignore-case", 'i'),
      ("no-ignore-case", 'λ'), ("initial-tab", 'T'), ("label", 'ν'), ("line-buffered", 'μ'),
      ("line-number", 'n'), ("line-regexp", 'x'), ("max-count", 'm'), ("no-filename", 'h'),
      ("no-group-separator", 'τ'), ("no-messages", 's'), ("null", 'Z'), ("null-data", 'z'),
      ("only-matching", 'o'), ("quiet", 'q'), ("recursive", 'r'),
      ("dereference-recursive", 'R'), ("regexp", 'e'), ("invert-match", 'v'), ("silent", 'q'),
      ("text", 'a'), ("unix-byte-offsets", 'u'), ("with-filename", 'H'), ("word-regexp", 'w')]⟩

/-- What is done with directories. -/
inductive DirectoryUse
  | read
  | recurse
  | skip
  deriving DecidableEq, Repr

/-- The words for what is done with directories. -/
def directoryChoices : Choices DirectoryUse :=
  [(["read"], .read), (["recurse"], .recurse), (["skip"], .skip)]

/-- What is done with files that are no text. -/
inductive BinaryUse
  | binary
  | text
  | withoutMatch
  deriving DecidableEq, Repr

/-- The words for what is done with files that are no text. -/
def binaryUses : List (String × BinaryUse) :=
  [("binary", .binary), ("text", .text), ("without-match", .withoutMatch)]

/-- The kinds of patterns by their letters. -/
def patternKinds : List (Char × PatternKind) :=
  [('G', .basic), ('E', .extended), ('F', .fixed), ('P', .ordered)]

/-- What the options of a search say. -/
structure SearchRule where
  kind : Option PatternKind
  /-- How many lines are shown around one that was found, if nothing else is said. -/
  around : Option Nat
  /-- The digits of that number, as far as they have been read. -/
  digits : List Char
  before : Option Nat
  after : Option Nat
  /-- After how many lines that were found the search of a file ends. -/
  most : Option Nat
  directories : DirectoryUse
  skipsDevices : Bool
  binaries : BinaryUse
  isColoured : Bool
  ignoresCase : Bool
  separator : Option String
  patterns : Option (List LinePattern)
  warnings : List String

/-- What a search is without options. -/
def SearchRule.plain : SearchRule :=
  { kind := none, around := none, digits := [], before := none, after := none, most := none,
    directories := .read, skipsDevices := false, binaries := .binary, isColoured := false,
    ignoresCase := false, separator := some "--", patterns := none, warnings := [] }

/-- Why the options of a search cannot be used: something is said, and how the program is used may
be shown. -/
structure SearchFlaw where
  text : String
  showsUsage : Bool

/-- The number of lines around one that was found. -/
def contextSize (word : String) : Except SearchFlaw Nat :=
  match Text.integer? word with
  | some (.ofNat n) => .ok n
  | _ => .error ⟨word ++ ": invalid context length argument", false⟩

/-- The lines of a text. -/
def patternLines (text : String) (origin : Option String) : List LinePattern :=
  let lines := text.splitOn "\n"
  ((List.range lines.length).zip lines).map fun p =>
    ⟨charactersOf p.2, origin.map fun name => (name, p.1 + 1)⟩

/-- The words for when colours are used. -/
def colourWords : List (String × Bool) :=
  [("always", true), ("yes", true), ("force", true), ("never", false), ("no", false),
    ("none", false), ("auto", false), ("tty", false), ("if-tty", false), ("", false)]

/-- What the options say after one more. -/
def SearchRule.add (site : Site) (input : Source) (r : SearchRule) (o : Char × String) :
    Except SearchFlaw SearchRule :=
  let refuse (text : String) : Except SearchFlaw SearchRule := .error ⟨text, false⟩
  let addPatterns (ps : List LinePattern) : SearchRule :=
    { r with patterns := some (r.patterns.getD [] ++ ps) }
  match o.1, patternKinds.lookup o.1 with
  | _, some kind =>
    if r.kind.any (· != kind) then refuse "conflicting matchers specified"
    else .ok { r with kind := some kind }
  | 'A', _ => (contextSize o.2).map fun n => { r with after := some n }
  | 'B', _ => (contextSize o.2).map fun n => { r with before := some n }
  | 'C', _ => (contextSize o.2).map fun n => { r with around := some n, digits := [] }
  | 'D', _ =>
    if o.2 = "read" then .ok { r with skipsDevices := false }
    else if o.2 = "skip" then .ok { r with skipsDevices := true }
    else refuse "unknown devices method"
  | 'd', _ =>
    match directoryChoices.read "--directories" o.2 with
    | .ok use => .ok { r with directories := use }
    | .error text => .error ⟨text, true⟩
  | 'r', _ => .ok { r with directories := .recurse }
  | 'R', _ => .ok { r with directories := .recurse }
  | 'I', _ => .ok { r with binaries := .withoutMatch }
  | 'a', _ => .ok { r with binaries := .text }
  | 'β', _ =>
    match binaryUses.lookup o.2 with
    | some use => .ok { r with binaries := use }
    | none => refuse "unknown binary-files type"
  | 'm', _ =>
    match Text.integer? o.2 with
    | some (.ofNat n) => .ok { r with most := some n }
    | some _ => .ok { r with most := none }
    | none => refuse "invalid max count"
  | 'i', _ => .ok { r with ignoresCase := true }
  | 'y', _ => .ok { r with ignoresCase := true }
  | 'λ', _ => .ok { r with ignoresCase := false }
  | 'u', _ =>
    .ok { r with
      warnings := r.warnings ++ ["warning: --unix-byte-offsets (-u) is obsolete"] }
  | 'σ', _ => .ok { r with separator := some o.2 }
  | 'τ', _ => .ok { r with separator := none }
  | 'κ', _ => .ok { r with isColoured := (colourWords.lookup o.2).getD false }
  | 'e', _ => .ok (addPatterns (patternLines o.2 none))
  | 'f', _ =>
    match readWord site input o.2 with
    | .ok source =>
      let text := String.ofList source.text.toList
      if text = "" then .ok (addPatterns [])
      else
        let lines := patternLines text (some o.2)
        let isClosed := text.toList.getLast? == some '\n'
        .ok (addPatterns (if isClosed then lines.dropLast else lines))
    | .error fault => refuse (o.2 ++ ": " ++ wordsOf fault)
  | c, _ =>
    if c.isDigit then
      let digits := r.digits ++ [c]
      .ok { r with digits := digits, around := some (Text.digitsValue digits) }
    else .ok r

/-! ### Colours -/

/-- The colours of what is shown, as they are told to a terminal. -/
structure Palette where
  /-- What has matched in a line that was found, and in one around it. -/
  found : String
  nearby : String
  /-- The rest of a line that was found, and of one around it. -/
  line : String
  context : String
  name : String
  number : String
  offset : String
  separator : String
  /-- Whether the colours of lines change sides if the search is for other lines. -/
  isReversed : Bool
  /-- Whether the rest of the line is cleared at every change. -/
  clears : Bool

/-- The usual colours. -/
def Palette.usual : Palette :=
  { found := "01;31", nearby := "01;31", line := "", context := "", name := "35", number := "32",
    offset := "32", separator := "36", isReversed := false, clears := true }

/-- Whether a text is a colour. -/
def isColour (cs : List Char) : Bool :=
  cs.all fun c => c == ';' || c.isDigit

/-- Sets a colour by its name. -/
def Palette.set (p : Palette) (name : String) (value : Option String) : Palette :=
  match name, value with
  | "mt", some v => { p with found := v, nearby := v }
  | "ms", some v => { p with found := v }
  | "mc", some v => { p with nearby := v }
  | "sl", some v => { p with line := v }
  | "cx", some v => { p with context := v }
  | "fn", some v => { p with name := v }
  | "ln", some v => { p with number := v }
  | "bn", some v => { p with offset := v }
  | "se", some v => { p with separator := v }
  | "rv", _ => { p with isReversed := true }
  | "ne", _ => { p with clears := false }
  | _, _ => p

/-- Sets colours by a list of settings up to the first one that is none. -/
def Palette.setAll : Palette → List (List Char) → Palette
  | p, [] => p
  | p, setting :: rest =>
    let name := setting.takeWhile (· != '=')
    match setting.drop name.length with
    | [] => setAll (p.set (String.ofList name) none) rest
    | _ :: value =>
      if name.isEmpty || !isColour value then p
      else setAll (p.set (String.ofList name) (some (String.ofList value))) rest

/-- The value of a variable of the environment that is not empty. -/
def setValue? (site : Site) (name : String) : Option String :=
  (site.environment.lookup name).filter (· != "")

/-- The colours that the environment asks for. -/
def paletteOf (site : Site) : Palette :=
  let p : Palette :=
    match setValue? site "GREP_COLOR" with
    | some v => if isColour v.toList then { Palette.usual with found := v, nearby := v } else .usual
    | none => .usual
  match setValue? site "GREP_COLORS" with
  | some v => p.setAll (v.toList.splitOn ':')
  | none => p

/-- What starts a colour. -/
def Palette.start (p : Palette) (colour : String) : String :=
  if colour = "" then ""
  else "\x1b[" ++ colour ++ "m" ++ (if p.clears then "\x1b[K" else "")

/-- A text in a colour. -/
def Palette.paint (p : Palette) (colour text : String) : String :=
  if colour = "" then text
  else p.start colour ++ text ++ "\x1b[m" ++ (if p.clears then "\x1b[K" else "")

/-! ### Showing lines -/

/-- How lines are shown. -/
structure Display where
  finder : Finder
  call : Call
  rule : SearchRule
  /-- The colours, if there are any. -/
  palette : Option Palette
  terminator : Char
  isQuiet : Bool

/-- A line with its number and the place of its first byte. -/
structure NumberedLine where
  number : Nat
  offset : Nat
  text : List Char

/-- The file that is searched: its name, if that is shown, and how wide numbers are. -/
structure Searched where
  name : String
  showsName : Bool
  width : Nat

/-- Where a search is in a file. -/
structure Progress where
  /-- The lines before that were not shown, the last one first. -/
  before : List NumberedLine
  /-- How many lines are still shown. -/
  pending : Nat
  /-- The number of the last line that was shown. -/
  lastShown : Option Nat
  /-- How many lines were found. -/
  count : Nat
  /-- What is shown, the last text first. -/
  texts : List String
  /-- Whether lines were found before, in this file or another. -/
  hasFound : Bool
  /-- How many bytes there are up to the end of the last line that was found. -/
  foundSize : Nat
  /-- Whether a line was not shown because it is no text. -/
  hasRefused : Bool

namespace Display

/-- A text in one of the colours, if there are colours. -/
def painted (d : Display) (colour : Palette → String) (text : String) : String :=
  match d.palette with
  | some p => p.paint (colour p) text
  | none => text

/-- A mark between the parts in front of a line. -/
def mark (d : Display) (isFound : Bool) : String :=
  d.painted (·.separator) (if isFound then ":" else "-")

/-- The name of a file in front of something. -/
def nameFront (d : Display) (file : Searched) (isFound : Bool) : String :=
  if file.showsName then
    d.painted (·.name) file.name ++ (if d.call.has 'Z' then "\x00" else d.mark isFound)
  else ""

/-- What stands in front of a line, or of a part of one. -/
def front (d : Display) (file : Searched) (isFound isEmpty : Bool) (number offset : Nat) :
    String :=
  let showsAny := file.showsName || d.call.hasAny "nb"
  d.nameFront file isFound
    ++ (if d.call.has 'n' then
        d.painted (·.number) (padLeft file.width (toString number)) ++ d.mark isFound
      else "")
    ++ (if d.call.has 'b' then
        d.painted (·.offset) (padLeft file.width (toString offset)) ++ d.mark isFound
      else "")
    ++ (if d.call.has 'T' && showsAny && !isEmpty then "\t" else "")

/-- Whether some characters are shown only if all files count as text. -/
def isRefused (d : Display) (cs : List Char) : Bool :=
  d.rule.binaries != .text && cs.any Text.isStray

/-- Some characters as they are written. -/
def written (cs : List Char) : String :=
  Text.octetsOf (String.ofList cs)

/-- Some characters as they are written whose matches have a colour, and what follows the last
match. `start` is the place of the first character. -/
def paintMatches (p : Palette) (line colour : String) (start : Nat) (cs : List Char) :
    List (Nat × Nat) → String × List Char
  | [] => ("", cs)
  | (i, j) :: rest =>
    let (text, left) := paintMatches p line colour j (cs.drop (j - start)) rest
    (p.start line ++ written (cs.take (i - start))
      ++ p.paint colour (written ((cs.drop (i - start)).take (j - i))) ++ text, left)

/-- The text of a line with its colours. -/
def paintLine (d : Display) (p : Palette) (isFound : Bool) (cs : List Char) : String :=
  let isInverted := d.call.has 'v'
  let line := if isFound != (isInverted && p.isReversed) then p.line else p.context
  let colour := if isFound then p.found else p.nearby
  let matched :=
    if isFound != isInverted && colour != "" then
      d.finder.findAll (d.finder.subject cs) (cs.length + 2) 0
    else []
  let (text, left) := paintMatches p line colour 0 cs matched
  let ending := if left.getLast? = some '\r' then ['\r'] else []
  let body := left.take (left.length - ending.length)
  text ++ (if body.isEmpty then "" else p.paint line (written body)) ++ written ending

/-- What is shown of a line; none if it is no text. -/
def lineText? (d : Display) (file : Searched) (isFound : Bool) (line : NumberedLine) :
    Option String :=
  let cs := Text.charactersFrom 0 line.text
  let ending := String.singleton d.terminator
  if d.call.has 'o' then
    if isFound = d.call.has 'v' then some ""
    else
      let matched := d.finder.findAll (d.finder.subject cs) (cs.length + 2) 0
      let pieces := matched.map fun m =>
        (Text.octetCount (cs.take m.1), (cs.drop m.1).take (m.2 - m.1))
      if pieces.any fun piece => d.isRefused piece.2 then none
      else
        some (String.join (pieces.map fun piece =>
          d.front file (!d.call.has 'v') false line.number (line.offset + piece.1)
            ++ d.painted (fun p => if isFound then p.found else p.nearby) (written piece.2)
            ++ ending))
  else if d.isRefused cs then none
  else
    let body :=
      match d.palette with
      | some p => d.paintLine p isFound cs
      | none => String.ofList line.text
    some (d.front file isFound line.text.isEmpty line.number line.offset ++ body ++ ending)

/-- Shows a line. -/
def put (d : Display) (file : Searched) (isFound : Bool) (p : Progress) (line : NumberedLine) :
    Progress :=
  match d.lineText? file isFound line with
  | some text => { p with texts := text :: p.texts, lastShown := some line.number }
  | none => { p with hasRefused := true, lastShown := some line.number }

/-- How many lines are shown before one that was found. -/
def before (d : Display) : Nat :=
  (d.rule.before.orElse fun _ => d.rule.around).getD 0

/-- How many lines are shown after one that was found. -/
def after (d : Display) : Nat :=
  (d.rule.after.orElse fun _ => d.rule.around).getD 0

/-- The mark between lines that do not follow each other. -/
def gap (d : Display) (p : Progress) (first : Nat) : List String :=
  let hasContext := d.rule.before.isSome || d.rule.after.isSome || d.rule.around.isSome
  match d.rule.separator with
  | some text =>
    if hasContext && p.hasFound && p.lastShown != some (first - 1) then
      [d.painted (·.separator) text ++ "\n"]
    else []
  | none => []

/-- Whether enough lines were found. -/
def isOver (d : Display) (p : Progress) : Bool :=
  d.rule.most.any (· ≤ p.count)

/-- Looks at a line. -/
def step (d : Display) (file : Searched) (isSilent : Bool) (p : Progress) (line : NumberedLine) :
    Progress :=
  let isFound :=
    !d.isOver p
      && (d.finder.find? (d.finder.subject (Text.charactersFrom 0 line.text)) 0).isSome
        != d.call.has 'v'
  if isFound then
    let q := { p with count := p.count + 1, foundSize := line.offset + line.text.length + 1 }
    if isSilent then { q with hasFound := true, pending := 0 }
    else
      let context := (p.before.take d.before).reverse
      let first := ((context.head?).map (·.number)).getD line.number
      let q := { q with texts := d.gap p first ++ q.texts, hasFound := true }
      let q := context.foldl (d.put file false) q
      let q := d.put file true q line
      { q with before := [], pending := d.after }
  else if 0 < p.pending then
    { d.put file false p line with pending := p.pending - 1 }
  else { p with before := line :: p.before.take d.before }

/-- Looks at lines as long as anything can come of them. -/
def walk (d : Display) (file : Searched) (isSilent endsEarly : Bool) :
    Progress → List NumberedLine → Progress
  | p, [] => p
  | p, line :: rest =>
    let isSettled := endsEarly && 0 < p.count
    if (d.isOver p && p.pending = 0) || isSettled then p
    else walk d file isSilent endsEarly (d.step file isSilent p line) rest

end Display

/-- Lines with their numbers and places. -/
def numberedLines (lines : List (List Char)) : List NumberedLine :=
  (lines.foldl (fun (s : Nat × Nat × List NumberedLine) line =>
    (s.1 + 1, s.2.1 + line.length + 1, ⟨s.1, s.2.1, line⟩ :: s.2.2)) (1, 0, [])).2.2.reverse

/-- The lines of some characters that end at some others, one without an end included. -/
def linesEnding (isEnd : Char → Bool) (cs : List Char) : List (List Char) :=
  let parts := cs.splitOnP isEnd
  if parts.getLast? = some [] then parts.dropLast else parts

/-! ### Files -/

/-- A search so far. -/
structure Search where
  outcome : Outcome
  hasFound : Bool
  hasFailed : Bool
  /-- Whether lines were found that could be shown. -/
  hasShown : Bool
  /-- How much of the input has been used. -/
  used : Nat
  /-- Whether more of the input is needed. -/
  isStarved : Bool

/-- Adds a message to a search. -/
def Search.say (s : Search) (site : Site) (text : String) : Search :=
  { s with outcome := s.outcome.note (message site text) 0 }

/-- Adds a failure to a search. -/
def Search.fail (s : Search) (site : Site) (call : Call) (text : String) : Search :=
  { if call.has 's' then s else s.say site text with hasFailed := true }

/-- How wide numbers are in front of the lines of a file. -/
def numberWidth (call : Call) (size : Option Nat) : Nat :=
  if !call.has 'T' then 0
  else
    match size with
    | some n => (toString (if call.has 'n' then n + 1 else n)).length
    | none => 20

/-- What is shown of a file besides its lines. -/
def fileText (d : Display) (file : Searched) (count : Nat) (lines : String) : String :=
  let call := d.call
  let listed := d.painted (·.name) file.name ++ (if call.has 'Z' then "\x00" else "\n")
  if d.isQuiet then ""
  else if call.has 'l' && call.lastOf? "lL" = some 'l' then (if 0 < count then listed else "")
  else if call.has 'L' then (if count = 0 then listed else "")
  else if call.has 'c' then d.nameFront file true ++ toString count ++ "\n"
  else lines

/-- Searches the text of a file. -/
def searchText (site : Site) (d : Display) (s : Search) (file : Searched) (isInput isWhole : Bool)
    (text : List Char) : Search :=
  let call := d.call
  let listsNames := call.hasAny "lL"
  let endsEarly := d.isQuiet || listsNames
  let isSilent := endsEarly || call.has 'c'
  let isBinary :=
    !call.has 'z' && d.rule.binaries != .text && text.contains (Char.ofNat 0)
  let isEnd (c : Char) : Bool := c == d.terminator || (isBinary && c.toNat == 0)
  let all := linesEnding isEnd text
  let isCut := isInput && !isWhole
  let lines := if isCut && text.getLast? != some d.terminator then all.dropLast else all
  let start : Progress := ⟨[], 0, none, 0, [], s.hasShown, 0, false⟩
  if isBinary && d.rule.binaries = .withoutMatch then
    { s with
      used := s.used + text.length, isStarved := s.isStarved || isCut,
      outcome := s.outcome.write (if isSilent then fileText d file 0 "" else "") }
  else
    let p :=
      d.walk file (isSilent || isBinary) (endsEarly || (isBinary && !call.has 'c')) start
        (numberedLines lines)
    let isOver := d.isOver p
    let isSettled := (endsEarly || (isBinary && !call.has 'c')) && 0 < p.count
    let isFound := 0 < p.count
    let used := if isOver then p.foundSize else text.length
    let shown := fileText d file p.count (String.join p.texts.reverse)
    let s :=
      { s with
        outcome := s.outcome.write shown, hasShown := p.hasFound,
        hasFound := s.hasFound || isFound, used := if isInput then s.used + used else s.used,
        isStarved := s.isStarved || (isCut && !isSettled && !(isOver && p.pending = 0)) }
    if !isSilent && (p.hasRefused || (isBinary && isFound)) then
      s.say site (file.name ++ ": binary file matches")
    else s

/-- Something to search, or something to say on the way. -/
inductive Visit
  | input
  | file (name : String) (isBelow : Bool)
  | failure (text : String)
  | warning (text : String)

/-- Searches one thing. -/
def searchVisit (site : Site) (d : Display) (supply : Supply) (showsNames : Bool → Bool)
    (s : Search) (v : Visit) : Search :=
  let isPlain := !d.isQuiet && !d.call.hasAny "lLc" && d.rule.most.all (1 < ·)
  if d.call.has 'q' && s.hasFound then s
  else
    match v with
    | .input =>
      let name := (d.call.value? 'ν').getD "(standard input)"
      let width := numberWidth d.call supply.fileSize
      searchText site d s ⟨name, showsNames false, width⟩ true supply.isWhole
        (supply.source.text.toList.drop s.used)
    | .file name isBelow =>
      if isPlain && (site.outputOffset? (pathOf name)).isSome then
        { s.say site (name ++ ": input file is also the output") with hasFailed := true }
      else
        match readPath site site.disk name with
        | .ok source =>
          let width := numberWidth d.call (some source.content.size)
          searchText site d s ⟨name, showsNames isBelow, width⟩ false true source.text.toList
        | .error (.system .isDirectory) => s.fail site d.call (name ++ ": Is a directory")
        | .error fault => s.fail site d.call (name ++ ": " ++ wordsOf fault)
    | .failure text => s.fail site d.call text
    | .warning text => if d.call.has 's' then s else s.say site text

/-! ### Which files -/

/-- Whether a pattern accepts a name, or the end of a name that starts after a slash. -/
def acceptsEnd (pattern : String) (isWhole : Bool) (name : List Char) : Bool :=
  let p := Pattern.ofText pattern
  p.accepts name
    || (!isWhole && (List.range name.length).any fun i =>
      name[i]? == some '/' && name[i + 1]?.any (· != '/') && p.accepts (name.drop (i + 1)))

/-- Whether a file is left out because of its name. The last option that speaks of it decides; if
none does, the first one means the opposite for all that it does not speak of. -/
def isLeftOut (lists : List (Bool × String)) (isBelow : Bool) (name : String) : Bool :=
  match lists with
  | [] => false
  | first :: _ =>
    match lists.reverse.find? fun e => acceptsEnd e.2 isBelow name.toList with
    | some e => !e.1
    | none => first.1

/-- The patterns for names of files in a call: whether they let files in, and their texts. -/
def nameLists (site : Site) (call : Call) : List (Bool × String) :=
  call.options.flatMap fun o =>
    if o.1 = 'ι' then [(true, o.2)]
    else if o.1 = 'ε' then [(false, o.2)]
    else if o.1 = 'ξ' then
      match readPath site site.disk o.2 with
      | .ok source => ((linesOf source.text).1.filter (· != "")).map fun line => (false, line)
      | .error _ => []
    else []

/-- A pattern for names of directories without slashes at its end. -/
def directoryPattern (pattern : String) : String :=
  let cs := pattern.toList
  String.ofList (cs.reverse.dropWhile (· == '/')).reverse

/-- What there is to search below a directory. `fuel` bounds how deep. -/
def visitsBelow (site : Site) (call : Call) (lists : List (Bool × String)) (above : List Place) :
    (fuel : Nat) → Place → (word : String) → List Visit
  | 0, _, _ => []
  | fuel + 1, directory, word =>
    (site.disk.children directory).flatMap fun e =>
      let last := Text.encoded e.1
      let name := if word = "" then last else within word last
      let dropped := (call.values 'δ').map fun p => (false, directoryPattern p)
      let isOut := isLeftOut lists true last
      let enter (place : Place) : List Visit :=
        if isLeftOut dropped true last then []
        else if place.isPrefixOf directory then
          [.warning (name ++ ": warning: recursive directory loop")]
        else visitsBelow site call lists (place :: above) fuel place name
      match e.2 with
      | .directory => enter (directory ++ [e.1])
      | .link _ =>
        if !call.has 'R' then []
        else
          match site.disk.locateNode site.cwd true (pathOf name) with
          | .ok (place, .directory) => enter place
          | .ok (_, .file _) => if isOut then [] else [.file name true]
          | .ok _ => []
          | .error fault => if isOut then [] else [.failure (name ++ ": " ++ wordsOf fault)]
      | .file _ => if isOut then [] else [.file name true]
      | _ => []

/-- What there is to search for some names. -/
def visitsOf (site : Site) (call : Call) (rule : SearchRule) (names : List String) : List Visit :=
  let lists := nameLists site call
  let recurses := rule.directories = .recurse
  let words := if names.isEmpty then (if recurses then [""] else ["-"]) else names
  let dropped := (call.values 'δ').map fun p => (false, directoryPattern p)
  words.flatMap fun word =>
    if namesInput word then [.input]
    else
      match site.disk.locateNode site.cwd true (pathOf (if word = "" then "." else word)) with
      | .ok (place, .directory) =>
        if rule.directories = .skip || (word != "" && isLeftOut dropped false word) then []
        else if recurses then
          visitsBelow site call lists [place] (site.disk.entries.length + 1) place word
        else [.file word false]
      | .ok (_, .device _) =>
        if rule.skipsDevices || isLeftOut lists false word then [] else [.file word false]
      | .ok _ => if isLeftOut lists false word then [] else [.file word false]
      | .error _ => [.file word false]

/-! ### The program -/

/-- How `grep` is used. -/
def grepUsage (site : Site) : String :=
  "Usage: " ++ site.label ++ " [OPTION]... PATTERNS [FILE]...\n" ++ helpHint site ++ "\n"

/-- Whether an empty pattern without limits matches all lines. -/
def matchesAll (call : Call) (patterns : List LinePattern) : Bool :=
  patterns.length = 1 && patterns.all (·.text.isEmpty) && !call.hasAny "xw"

/-- Searches files for patterns. -/
def searchFiles (site : Site) (call : Call) (rule : SearchRule) (patterns : List LinePattern)
    (names : List String) (supply : Supply) : Option Outcome :=
  let kind := rule.kind.getD .basic
  let said (texts : List String) (o : Outcome) : Outcome :=
    texts.foldl (fun o text => o.note (message site text) 0) o
  let start := said rule.warnings (Outcome.nothing site)
  -- No pattern at all matches no line, so that no line at all is searched for if others are.
  let isVain :=
    (rule.most = some 0 || (patterns.isEmpty && !call.has 'v')
      || (matchesAll call patterns && call.has 'v')) && call.lastOf? "lL" != some 'L'
  match Finder.ofPatterns kind rule.ignoresCase (call.has 'w') (call.has 'x') patterns with
  | .error texts => some { said texts start with code := 2 }
  | .ok finder =>
    if isVain then some { start with code := 1 }
    else
      let deprecated :=
        match setValue? site "GREP_COLOR" with
        | some v =>
          if rule.isColoured then
            ["warning: GREP_COLOR='" ++ v ++ "' is deprecated; use GREP_COLORS='mt=" ++ v ++ "'"]
          else []
        | none => []
      let warnings := deprecated ++ patterns.flatMap fun p => patternWarnings kind p.text
      let d : Display :=
        ⟨finder, call, rule, if rule.isColoured then some (paletteOf site) else none,
          if call.has 'z' then Char.ofNat 0 else '\n',
          call.has 'q' || site.output == .nowhere⟩
      let visits := visitsOf site call rule names
      let showsNames (isBelow : Bool) : Bool :=
        match call.lastOf? "Hh" with
        | some c => c == 'H'
        | none => isBelow || 1 < names.length
      let s := visits.foldl (searchVisit site d supply showsNames)
        ⟨said warnings start, false, false, false, 0, false⟩
      let code :=
        if s.hasFound && call.has 'q' then 0 else if s.hasFailed then 2
        else if s.hasFound then 0 else 1
      let readsInput := visits.any fun v => match v with
        | .input => true
        | _ => false
      if s.isStarved then none
      else
        let taken := if supply.fileSize.isSome && readsInput then some s.used else none
        some { s.outcome with code := code, taken := taken }

/-- Finds the lines of files, or of the input, that match patterns; none if more input is needed. -/
def grep (site : Site) (words : List String) (supply : Supply) : Option Outcome :=
  let refuse (text : String) (code : Nat) : Option Outcome :=
    some ((Outcome.nothing site).note (text ++ grepUsage site) code)
  match Call.read grepTable words with
  | .error flaw => refuse (message site flaw.words) 2
  | .ok call =>
    let rule := call.options.foldlM (fun rule o => rule.add site supply.source o)
      SearchRule.plain
    match rule with
    | .error flaw =>
      if flaw.showsUsage then refuse (message site flaw.text) 1 else some (fails site flaw.text 2)
    | .ok rule =>
      match rule.patterns, call.operands with
      | some patterns, names => searchFiles site call rule patterns names supply
      | none, pattern :: names =>
        searchFiles site call rule (patternLines pattern none) names supply
      | none, [] => refuse "" 2

end SnippetForge.Shell.Utility
