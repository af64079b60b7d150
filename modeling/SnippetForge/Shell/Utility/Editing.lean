import SnippetForge.Shell.Utility.EditScript
import SnippetForge.Shell.Utility.Options

/-!
# Editing lines

A script of editing commands runs once for every line: the line is read into the space that is
edited, the commands work on it, and what is left is written. A second space keeps text for later
lines. A text whose last line has no end is written without one, unless more follows it.

The state knows when a script has asked for input that is not there yet; what it has done is then of
no use, and it runs again when more input has come.
-/

namespace SnippetForge.Shell.Editing

/-! ### Lines -/

/-- A text with the knowledge whether it has a line end. -/
structure Space where
  text : List Char
  isClosed : Bool

/-- The lines of a text, in characters, each with whether it has an end. -/
def spacesOf (terminator : Char) (text : String) : List Space :=
  let parts := (Text.characters text).toList.splitOn terminator
  let closed := parts.dropLast.map fun cs => Space.mk cs true
  match parts.getLast? with
  | some [] => closed
  | some cs => closed ++ [⟨cs, false⟩]
  | none => closed

/-- A file whose lines are read. -/
structure Feed where
  name : String
  lines : List Space
  /-- Whether more lines may follow that are not there yet. -/
  isPartial : Bool
  /-- Whether it is what the program reads by itself. -/
  isInput : Bool

/-! ### Output -/

/-- Where lines are written. -/
inductive Sink
  | out
  | err
  | file (name : String)
  /-- The file that is being edited. -/
  | place (name : String)
  deriving DecidableEq

/-- The sink that a name means. -/
def Sink.ofName (name : String) : Sink :=
  match name with
  | "/dev/stdout" => .out
  | "/dev/stderr" => .err
  | name => .file name

/-- What has been written to a sink: texts, the last one first, and whether a line end is missing at
the end. -/
structure Written where
  sink : Sink
  texts : List (List Char)
  lacksEnd : Bool

/-! ### States -/

/-- Where a command is in the range of its addresses. -/
inductive RangeState
  | idle
  | untilLine (n : Nat)
  | untilFound

/-- What is written when the line is done. -/
inductive Queued
  | text (cs : List Char)
  | file (name : String)

/-- How a script is run. -/
structure Job where
  commands : Array Command
  isQuiet : Bool
  /-- Whether each file is a text of its own. -/
  isSeparate : Bool
  /-- Whether files are edited in place. -/
  inPlace : Bool
  terminator : Char
  /-- How long lines may be that are listed. -/
  width : Nat
  /-- What a file holds. -/
  fileText : String → Option String

/-- Where a script is. -/
structure State where
  space : Space
  held : Space
  /-- The number of the line. -/
  number : Nat
  feeds : List Feed
  isStarved : Bool
  /-- How many bytes of the input have been read. -/
  consumed : Nat
  queue : List Queued
  /-- Whether something has been replaced since the line was read. -/
  hasReplaced : Bool
  ranges : Array RangeState
  lastSearch : Option Search
  sink : Sink
  written : List Written
  /-- The lines that are left of files that are read line by line. -/
  sources : List (String × List Space)
  /-- Whether there was no last search when one was needed. -/
  lacksSearch : Bool

namespace State

/-! ### Writing -/

/-- Writes a text to a sink. -/
def write (st : State) (job : Job) (sink : Sink) (text : List Char) (lacksEnd : Bool) : State :=
  let old := (st.written.find? (·.sink == sink)).getD ⟨sink, [], false⟩
  let texts := if old.lacksEnd then [job.terminator] :: old.texts else old.texts
  let others := st.written.filter (·.sink != sink)
  { st with written := ⟨sink, text :: texts, lacksEnd⟩ :: others }

/-- Writes a line to a sink. -/
def writeSpace (st : State) (job : Job) (sink : Sink) (s : Space) : State :=
  st.write job sink (if s.isClosed then s.text ++ [job.terminator] else s.text) (!s.isClosed)

/-- Writes the space, unless lines are only written when asked for. -/
def finishSpace (st : State) (job : Job) : State :=
  if job.isQuiet then st else st.writeSpace job st.sink st.space

/-- Writes what was kept for the end of the line. -/
def flush (st : State) (job : Job) : State :=
  let step (st : State) (q : Queued) : State :=
    match q with
    | .text cs => if cs.isEmpty then st else st.write job st.sink cs false
    | .file name =>
      match job.fileText name with
      | some text =>
        if text = "" then st else st.write job st.sink (Text.characters text).toList false
      | none => st
  { st.queue.foldl step st with queue := [] }

/-- What has been written to a sink. -/
def textOf (st : State) (sink : Sink) : String :=
  match st.written.find? (·.sink == sink) with
  | some w => Text.octetsOf (String.ofList w.texts.reverse.flatten)
  | none => ""

/-! ### Reading -/

/-- The ranges at the start of a text. A range from before the first line has begun. -/
def startRanges (job : Job) : Array RangeState :=
  job.commands.map fun c => if isZeroth c.first then .untilFound else .idle

/-- Goes on to the next file. -/
def enterFeed (st : State) (job : Job) (feeds : List Feed) : State :=
  let st := { st with feeds := feeds }
  if job.isSeparate then
    let sink :=
      match feeds with
      | feed :: _ => if job.inPlace then Sink.place feed.name else st.sink
      | [] => st.sink
    { st with number := 0, ranges := startRanges job, sink := sink }
  else st

/-- Whether nothing follows the line. -/
def atEnd (st : State) (job : Job) : Bool × State :=
  let rest := if job.isSeparate then st.feeds.take 1 else st.feeds
  let isEnd := rest.all (·.lines.isEmpty)
  (isEnd, if isEnd && rest.any (·.isPartial) then { st with isStarved := true } else st)

/-- Takes the next line away from the files. -/
def takeLine (job : Job) : (fuel : Nat) → State → Option (Space × State)
  | 0, _ => none
  | fuel + 1, st =>
    match st.feeds with
    | [] => none
    | feed :: feeds =>
      match feed.lines with
      | line :: lines =>
        let size := Text.octetCount line.text + if line.isClosed then 1 else 0
        let consumed := if feed.isInput then st.consumed + size else st.consumed
        some (line,
          { st with
            feeds := { feed with lines := lines } :: feeds, number := st.number + 1,
            consumed := consumed, hasReplaced := false })
      | [] =>
        if feed.isPartial then none
        else if feeds.isEmpty then none
        else takeLine job fuel (st.enterFeed job feeds)

/-- Reads the next line into the space, or after it. -/
def readLine (st : State) (job : Job) (appends : Bool) : Option State :=
  let st := st.flush job
  (takeLine job (st.feeds.length + 1) st).map fun (line, st) =>
    let text := if appends then st.space.text ++ job.terminator :: line.text else line.text
    { st with space := ⟨text, line.isClosed⟩ }

/-! ### Addresses -/

/-- The search that is meant: the last one if it is left out. -/
def searchOf (st : State) (search : Option Search) : Option Search × State :=
  match search, st.lastSearch with
  | some s, _ => (some s, { st with lastSearch := some s })
  | none, some s => (some s, st)
  | none, none => (none, { st with lacksSearch := true })

/-- The space as it is searched. -/
def subject (st : State) (s : Search) : Expression.Subject :=
  ⟨st.space.text.toArray, s.ignoresCase, s.hasLines⟩

/-- Whether something is found in the space. -/
def finds (st : State) (search : Option Search) : Bool × State :=
  match st.searchOf search with
  | (some s, st) => ((Expression.find? (st.subject s) s.expression 0).isSome, st)
  | (none, st) => (false, st)

/-- Whether an address picks out the line. -/
def isAt (st : State) (job : Job) : Address → Bool × State
  | .line n => (st.number == n, st)
  | .stepped first step => (first ≤ st.number && (st.number - first) % step == 0, st)
  | .last => st.atEnd job
  | .found search => st.finds search

/-- The state of a range that starts at the line. -/
def started (st : State) (job : Job) (stop : RangeEnd) : RangeState × State :=
  let upTo (n : Nat) : RangeState := if n ≤ st.number then .idle else .untilLine n
  match stop with
  | .line n => (upTo n, st)
  | .after n => (upTo (st.number + n), st)
  | .multiple n => (upTo (if n = 0 then 0 else (st.number / n + 1) * n), st)
  | .last =>
    let (isEnd, st) := st.atEnd job
    (if isEnd then .idle else .untilFound, st)
  | .found _ => (.untilFound, st)

/-- Whether the end of a range is found at the line. -/
def isEndOf (st : State) (job : Job) : RangeEnd → Bool × State
  | .last => st.atEnd job
  | .found search => st.finds search
  | _ => (true, st)

/-- Whether the addresses of a command pick out the line. -/
def isChosen (st : State) (job : Job) (number : Nat) (c : Command) : Bool × State :=
  let set (st : State) (range : RangeState) : State :=
    { st with ranges := st.ranges.setIfInBounds number range }
  match c.first, c.last with
  | none, _ => (true, st)
  | some a, none => st.isAt job a
  | some a, some stop =>
    match (st.ranges[number]?).getD .idle with
    | .idle =>
      match st.isAt job a with
      | (false, st) => (false, st)
      | (true, st) =>
        let (range, st) := st.started job stop
        (true, set st range)
    | .untilLine n => (st.number ≤ n, if n ≤ st.number then set st .idle else st)
    | .untilFound =>
      let (isEnd, st) := st.isEndOf job stop
      (true, if isEnd then set st .idle else st)

/-- Whether a command is inside of its range, which goes on. -/
def isInside (st : State) (number : Nat) : Bool :=
  match st.ranges[number]? with
  | some .idle => false
  | some _ => true
  | none => false

end State

/-! ### Replacing -/

/-- A character whose case is changed. -/
def caseOf (mode : CaseMode) (c : Char) : Char :=
  match mode with
  | .kept => c
  | .upper => Text.toCapital c
  | .lower => Text.toSmall c

/-- A text whose case is changed, that of its first letter maybe in another way. -/
def casesOf (mode : CaseMode) (first : Option CaseMode) : List Char → List Char
  | [] => []
  | c :: cs => caseOf (first.getD mode) c :: cs.map (caseOf mode)

/-- What takes the place of a match. A change of the next letter that finds none is kept for the
next part. -/
def replacementText (s : Expression.Subject) (m : Expression.Match) :
    (first : Option CaseMode) → List ReplacementPart → List Char
  | _, [] => []
  | kept, part :: parts =>
    let first := if part.first.isSome then part.first else kept
    let front := casesOf part.mode first part.text
    let first := if part.text.isEmpty then first else none
    match part.group with
    | none => front ++ replacementText s m none parts
    | some n =>
      let found := m.group s n
      let kept := if found.isEmpty && part.first.isSome then first else none
      front ++ casesOf part.mode first found ++ replacementText s m kept parts

/-- Replaces matches from a place on. `count` is how many matches have been passed, and `before` where
the last one ended if it was not empty. Gives the text, in pieces, and whether anything was
replaced. -/
def replaceFrom (s : Expression.Subject) (e : Expression) (sub : Substitution) :
    (fuel : Nat) → (start count : Nat) → (before : Option Nat) → List (List Char) × Bool
  | 0, start, _, _ => ([Expression.slice s start s.text.size], false)
  | fuel + 1, start, count, before =>
    if s.text.size < start then ([], false)
    else
      match Expression.find? s e start with
      | none => ([Expression.slice s start s.text.size], false)
      | some m =>
        let skipped := Expression.slice s start m.first
        let isEmpty := m.first = m.last
        let kept := if isEmpty then Expression.slice s m.last (m.last + 1) else []
        let next := if isEmpty then m.last + 1 else m.last
        let goOn (text : List Char) (count : Nat) (hasReplaced : Bool) : List (List Char) × Bool :=
          let (texts, more) :=
            replaceFrom s e sub fuel next count (if isEmpty then none else some m.last)
          (skipped :: text :: kept :: texts, hasReplaced || more)
        if isEmpty && before = some m.first then goOn [] count false
        else if count + 1 < sub.number then goOn (Expression.slice s m.first m.last) (count + 1) false
        else
          let text := replacementText s m none sub.parts
          if sub.isGlobal then goOn text (count + 1) true
          else ([skipped, text, Expression.slice s m.last s.text.size], true)

/-! ### Listing -/

/-- A character as it is listed. -/
def listed (c : Char) : List Char :=
  let letters : List (Nat × Char) :=
    [(92, '\\'), (7, 'a'), (8, 'b'), (12, 'f'), (10, 'n'), (13, 'r'), (9, 't'), (11, 'v')]
  match letters.lookup c.toNat with
  | some letter => ['\\', letter]
  | none =>
    let n := c.toNat
    if 32 ≤ n && n < 127 then [c]
    else '\\' :: [n / 64 % 8, n / 8 % 8, n % 8].map fun d => Char.ofNat (48 + d)

/-- A text as it is listed, in lines of a width. `column` is how much of the line is used. -/
def listing (width : Nat) : (column : Nat) → List Char → List Char
  | _, [] => ['$', '\n']
  | column, c :: cs =>
    let item := listed c
    if 0 < width && width - 1 < column + item.length then
      '\\' :: '\n' :: item ++ listing width item.length cs
    else item ++ listing width (column + item.length) cs

/-! ### Commands -/

/-- How the commands for a line end. -/
inductive Ending
  /-- The line is done. -/
  | done (prints : Bool)
  /-- The commands start again with what is left of the space. -/
  | again
  /-- The script ends. -/
  | quit (code : Nat) (prints : Bool)

/-- What comes after a command. -/
inductive Step
  | goOn (command : Nat)
  | ends (e : Ending)

/-- The first line of a text. -/
def firstLine (cs : List Char) : List Char :=
  cs.takeWhile (· != '\n')

namespace State

/-- Replaces matches in the space. -/
def replace (st : State) (job : Job) (sub : Substitution) : State :=
  match st.searchOf sub.search with
  | (none, st) => st
  | (some search, st) =>
    let subject := st.subject search
    match replaceFrom subject search.expression sub (subject.text.size + 2) 0 0 none with
    | (_, false) => st
    | (texts, true) =>
      let st := { st with space := { st.space with text := texts.flatten }, hasReplaced := true }
      let st := if sub.prints then st.writeSpace job st.sink st.space else st
      match sub.target with
      | some name => st.writeSpace job (.ofName name) st.space
      | none => st

/-- The next line of a file that is read line by line. -/
def sourceLine (st : State) (job : Job) (name : String) : Option Space × State :=
  let lines :=
    match st.sources.lookup name with
    | some lines => lines
    | none => ((job.fileText name).map (spacesOf job.terminator)).getD []
  let others := st.sources.filter fun s => s.1 != name
  (lines.head?, { st with sources := (name, lines.drop 1) :: others })

/-- Adds to what is written when the line is done. -/
def enqueue (st : State) (q : Queued) : State :=
  { st with queue := st.queue ++ [q] }

/-- Changes the text of the space. -/
def withText (st : State) (text : List Char) : State :=
  { st with space := { st.space with text := text } }

/-- Does what a command says. `number` is the number of the command. -/
def perform (st : State) (job : Job) (number : Nat) (action : Action) : State × Step :=
  let next (st : State) : State × Step := (st, .goOn (number + 1))
  let quiet := Step.ends (.done false)
  match action with
  | .nothing => next st
  | .jump .always target => (st, .goOn target)
  | .jump .ifReplaced target =>
    if st.hasReplaced then ({ st with hasReplaced := false }, .goOn target) else next st
  | .jump .unlessReplaced target =>
    if st.hasReplaced then next { st with hasReplaced := false } else (st, .goOn target)
  | .append text => next (st.enqueue (.text text))
  | .insert text => next (if text.isEmpty then st else st.write job st.sink text false)
  | .change text =>
    let isSilent := text.isEmpty || st.isInside number
    (if isSilent then st else st.write job st.sink text false, quiet)
  | .readFile name => next (st.enqueue (.file name))
  | .readLine name =>
    match st.sourceLine job name with
    | (some line, st) =>
      next (st.enqueue (.text (if line.isClosed then line.text ++ [job.terminator] else line.text)))
    | (none, st) => next st
  | .writeFile name => next (st.writeSpace job (.ofName name) st.space)
  | .writeFirst name => next (st.writeSpace job (.ofName name) ⟨firstLine st.space.text, true⟩)
  | .quit code => (st, .ends (.quit code true))
  | .abandon code => ({ st with queue := [] }, .ends (.quit code false))
  | .replace sub => next (st.replace job sub)
  | .translate pairs => next (st.withText (st.space.text.map fun c => (pairs.lookup c).getD c))
  | .list width =>
    let octets := st.space.text.flatMap Text.octetsOfChar
    next (st.write job st.sink (listing (width.getD job.width) 0 octets) false)
  | .lineNumber => next (st.write job st.sink (toString st.number ++ "\n").toList false)
  | .fileName =>
    let name := ((st.feeds.head?).map (·.name)).getD "-"
    next (st.write job st.sink (Text.characters (name ++ "\n")).toList false)
  | .delete => (st, quiet)
  | .deleteFirst =>
    if st.space.text.contains '\n' then
      (st.withText (st.space.text.drop ((firstLine st.space.text).length + 1)), .ends .again)
    else (st, quiet)
  | .next =>
    match st.atEnd job with
    | (true, st) => (st, .ends (.done true))
    | (false, st) =>
      let st := st.finishSpace job
      next ((st.readLine job false).getD st)
  | .nextAppended =>
    match st.atEnd job with
    | (true, st) => (st, .ends (.done true))
    | (false, st) => next ((st.readLine job true).getD st)
  | .print => next (st.writeSpace job st.sink st.space)
  | .printFirst =>
    let text := firstLine st.space.text
    let isWhole := text.length = st.space.text.length
    next (st.writeSpace job st.sink ⟨text, !isWhole || st.space.isClosed⟩)
  | .hold => next { st with held := st.space }
  | .holdMore =>
    let text := st.held.text ++ job.terminator :: st.space.text
    next { st with held := ⟨text, st.held.isClosed || st.space.isClosed⟩ }
  | .recall => next { st with space := st.held }
  | .recallMore =>
    let text := st.space.text ++ job.terminator :: st.held.text
    next { st with space := ⟨text, st.held.isClosed || st.space.isClosed⟩ }
  | .exchange => next { st with space := st.held, held := st.space }
  | .clear => next (st.withText [])

/-- Whether the script cannot go on. -/
def isStuck (st : State) : Bool :=
  st.isStarved || st.lacksSearch

/-- Runs commands on a line. `fuel` bounds how many. -/
def runCommands (job : Job) : (fuel : Nat) → (number : Nat) → State → State × Ending
  | 0, _, st => (st, .quit 0 false)
  | fuel + 1, number, st =>
    if st.isStuck then (st, .quit 1 false)
    else
      match job.commands[number]? with
      | none => (st, .done true)
      | some c =>
        match st.isChosen job number c with
        | (isChosen, st) =>
          if isChosen != c.isNegated then
            match st.perform job number c.action with
            | (st, .goOn number) => runCommands job fuel number st
            | (st, .ends e) => (st, e)
          else runCommands job fuel (number + 1) st

/-- How many commands may run on a line. -/
def maxCommands : Nat := 1000000000

/-- Runs commands on line after line, and gives the exit code. `fuel` bounds how often. -/
def runLines (job : Job) : (fuel : Nat) → (reads : Bool) → State → State × Nat
  | 0, _, st => (st, 0)
  | fuel + 1, reads, st =>
    match if reads then st.readLine job false else some (st.flush job) with
    | none => (if st.feeds.any (·.isPartial) then { st with isStarved := true } else st.flush job, 0)
    | some st =>
      match runCommands job maxCommands 0 st with
      | (st, .done prints) =>
        if st.isStuck then (st, 1)
        else runLines job fuel true (if prints then st.finishSpace job else st)
      | (st, .again) => runLines job fuel false st
      | (st, .quit code prints) =>
        ((if prints then st.finishSpace job else st).flush job, code)

end State

/-- Runs a script on files. -/
def run (job : Job) (feeds : List Feed) : State × Nat :=
  let sink :=
    match feeds with
    | feed :: _ => if job.inPlace then Sink.place feed.name else .out
    | [] => .out
  let start : State :=
    { space := ⟨[], true⟩, held := ⟨[], true⟩, number := 0, feeds := feeds, isStarved := false,
      consumed := 0, queue := [], hasReplaced := false, ranges := State.startRanges job,
      lastSearch := none, sink := sink, written := [], sources := [], lacksSearch := false }
  State.runLines job State.maxCommands true start

end SnippetForge.Shell.Editing
