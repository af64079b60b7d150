import SnippetForge.Shell.Utility.Criteria

/-!
# Finding entries

The program that walks through directories and looks at every entry by a criterion. What it does with
entries is done on the way: it shows them, removes them, or starts programs for them. A program that
needs no more than its words and the disk runs at once, and its success counts. Any other program is
left to be started afterwards and is taken to succeed.
-/

namespace SnippetForge.Shell.Utility

/-! ### Entries -/

/-- An entry that is looked at. -/
structure Found where
  /-- Its path as it is shown. -/
  word : String
  place : Place
  entry : Entry
  /-- The entry on the other side, if it is a link; the link itself, if that has been followed. -/
  other : Except Fault Entry
  depth : Nat
  /-- The path where the walk has started. -/
  start : String

/-- The node of an entry that is looked at. -/
def Found.node (f : Found) : Node :=
  f.entry.node

/-- What has become of a program that was to be run at once. -/
inductive Trial
  | finished (o : Outcome)
  /-- It has to be started as a process of its own. -/
  | postponed
  | missing

/-- How programs are run at once: on a disk, in a directory, by their words. -/
abbrev Trying := Disk → Place → List String → Trial

/-- What a walk has done so far. -/
structure Hunt where
  disk : Disk
  /-- What is to be written and started, the last one first. -/
  steps : List BatchStep
  /-- The entries that are kept for programs, by the keys of these. -/
  gathered : List (Nat × List String × List String)
  code : Nat
  /-- Whether nothing more is looked at. -/
  isOver : Bool
  /-- Whether the directory that is looked at is left out. -/
  isPruned : Bool

namespace Hunt

/-- A walk that also writes something. -/
def say (h : Hunt) (descriptor : Nat) (text : String) : Hunt :=
  if text = "" then h else { h with steps := .write descriptor text :: h.steps }

/-- A walk that also complains. -/
def complain (h : Hunt) (site : Site) (text : String) : Hunt :=
  { h.say 2 (message site text) with code := 1 }

/-- A walk that also runs a program. Gives whether the program has succeeded. -/
def start (h : Hunt) (attempt : Trying) (cwd : Place) (words : List String) (failure : Nat) :
    Hunt × Bool :=
  match attempt h.disk cwd words with
  | .finished o =>
    let h := o.written.foldl (fun h piece => h.say piece.1 piece.2) { h with disk := o.disk }
    if o.code = 0 then (h, true) else ({ h with code := max h.code failure }, false)
  | .postponed => ({ h with steps := .start words failure :: h.steps }, true)
  | .missing => ({ h with steps := .start words failure :: h.steps }, false)

/-- A walk that also keeps an entry for a program. -/
def gather (h : Hunt) (key : Nat) (words : List String) (word : String) : Hunt :=
  if (h.gathered.lookup key).isSome then
    { h with gathered := h.gathered.map fun g =>
        if g.1 = key then (key, g.2.1, g.2.2 ++ [word]) else g }
  else { h with gathered := h.gathered ++ [(key, words, [word])] }

end Hunt

/-! ### Looking at an entry -/

/-- The text with something in the place of every pair of braces. -/
def fillBraces (word text : String) : String :=
  word.intercalate (text.splitOn "\x7b\x7d")

/-- Whether a pattern accepts a text. -/
def acceptsText (ignoresCase : Bool) (pattern text : String) : Bool :=
  let fold (s : String) : List Char :=
    if ignoresCase then (charactersOf s).map Text.toSmall else charactersOf s
  (Pattern.ofText (String.ofList (fold pattern))).accepts (fold text)

/-- Whether an expression matches a whole text. -/
def matchesWhole (ignoresCase : Bool) (e : Expression) (text : String) : Bool :=
  let s : Expression.Subject := ⟨(charactersOf text).toArray, ignoresCase, false⟩
  let size := s.text.size
  (Expression.findWhere s e (fun i j => i == 0 && j == size) 1 0).isSome

/-- The letter by which the kind of a node is asked for. -/
def typeLetter : Node → Char
  | .file _ => 'f'
  | node => kindLetter node

/-- The path of the directory that holds an entry, as it is shown. -/
def Found.above (f : Found) : String :=
  match (f.word.toList.reverse.dropWhile (· == '/')).dropWhile (· != '/') with
  | [] => "."
  | _ :: cs => String.ofList cs.reverse

/-- The path of an entry from where the walk has started. -/
def Found.below (f : Found) : String :=
  String.ofList ((f.word.toList.drop f.start.length).dropWhile (· == '/'))

/-- What a letter of a format stands for. -/
def formatItem (disk : Disk) (f : Found) (c : Char) : String :=
  match c with
  | 'p' => f.word
  | 'f' => lastName f.word
  | 'h' => f.above
  | 'P' => f.below
  | 'H' => f.start
  | 's' => toString (sizeOf f.node)
  | 'y' => String.singleton (typeLetter f.node)
  | 'Y' =>
    match f.node, f.other with
    | .link _, .ok entry => String.singleton (typeLetter entry.node)
    | .link _, .error (.system .tooManyLinks) => "L"
    | .link _, .error _ => "N"
    | node, _ => String.singleton (typeLetter node)
  | 'm' => octalDigits f.entry.mode
  | 'M' => entryLetters f.entry
  | 'l' =>
    match f.node with
    | .link target => Text.encoded target.text
    | _ => ""
  | 'd' => toString f.depth
  | 'u' => "root"
  | 'g' => "root"
  | 'U' => "0"
  | 'G' => "0"
  | 'n' => toString (nameCount disk f.place f.entry)
  | 'i' => toString f.entry.id
  | 'k' => toString (kilobytesOf f.node)
  | 'b' => toString (kilobytesOf f.node * 2)
  | '%' => "%"
  | _ => "0"

/-- What a format makes of an entry. -/
def formatText (disk : Disk) (f : Found) (template : List Char) : String :=
  String.join (((formatPieces template).toOption.getD []).map fun piece =>
    match piece with
    | .text cs => String.ofList cs
    | .stop => ""
    | .odd cs _ => String.ofList cs
    | .item flags width c =>
      let text := formatItem disk f c
      if flags.contains '-' then padRight width text
      else if flags.contains '0' && text.toList.all Char.isDigit then
        String.ofList (List.replicate (width - text.length) '0') ++ text
      else padLeft width text)

/-- Whether permissions stand a test. -/
def ModeTest.holds (test : ModeTest) (bits mode : Mode) : Bool :=
  match test with
  | .exactly => mode == bits
  | .allOf => Nat.land mode bits == bits
  | .anyOf => bits == 0 || Nat.land mode bits != 0

/-- Whether something was written as long ago as a bound says. Days are counted when they are over, and
minutes when they have begun. -/
def keepsAge (inMinutes : Bool) (bound : Bound) (age : Nat) : Bool :=
  let minute := 60 * secondNanos
  if inMinutes then
    match bound.order with
    | .lt => age < bound.value * minute
    | .gt => bound.value * minute < age
    | .eq => (age + minute - 1) / minute == bound.value
  else bound.holds (age / (daySeconds * secondNanos))

/-- Removes an entry. Gives whether that could be done. -/
def removeFound (site : Site) (h : Hunt) (f : Found) : Hunt × Bool :=
  if f.word = "." then (h, true)
  else
    let isFull :=
      match f.node with
      | .directory => !(h.disk.children f.place).isEmpty
      | _ => false
    if isFull then
      (h.complain site ("cannot delete " ++ marked f.word ++ ": " ++ SystemError.notEmpty.words),
        false)
    else ({ h with disk := h.disk.cut f.place }, true)

/-- Looks at an entry by a criterion. Gives whether the criterion holds. -/
def judge (site : Site) (attempt : Trying) (f : Found) : Criterion → Hunt → Hunt × Bool
  | .constant holds, h => (h, holds)
  | .negation c, h =>
    let (h, holds) := judge site attempt f c h
    (h, !holds)
  | .both a b, h =>
    let (h, holds) := judge site attempt f a h
    if holds && !h.isOver then judge site attempt f b h else (h, false)
  | .either a b, h =>
    let (h, holds) := judge site attempt f a h
    if holds || h.isOver then (h, holds) else judge site attempt f b h
  | .sequence a b, h =>
    let (h, _) := judge site attempt f a h
    if h.isOver then (h, false) else judge site attempt f b h
  | .name ignoresCase pattern, h => (h, acceptsText ignoresCase pattern (lastName f.word))
  | .path ignoresCase pattern, h => (h, acceptsText ignoresCase pattern f.word)
  | .target ignoresCase pattern, h =>
    match f.node with
    | .link target => (h, acceptsText ignoresCase pattern (Text.encoded target.text))
    | _ => (h, false)
  | .spelled ignoresCase e, h => (h, matchesWhole ignoresCase e f.word)
  | .kind isOther letters, h =>
    let node := if isOther then (f.other.toOption.map (·.node)).getD f.node else f.node
    (h, letters.contains (typeLetter node))
  | .isEmpty, h =>
    match f.node with
    | .directory => (h, (h.disk.children f.place).isEmpty)
    | .file content => (h, content.isEmpty)
    | _ => (h, false)
  | .size unit bound, h => (h, bound.holds ((sizeOf f.node + unit - 1) / unit))
  | .links bound, h => (h, bound.holds (nameCount h.disk f.place f.entry))
  | .mode test bits, h => (h, test.holds bits f.entry.mode)
  | .isExecutable, h => (h, (f.other.toOption.getD f.entry).mode.isExecutable)
  | .isReadable, h => (h, (f.other.toOption.getD f.entry).mode.isReadable)
  | .isWritable, h => (h, (f.other.toOption.getD f.entry).mode.isWritable)
  | .isNode id, h => (h, f.entry.id == id)
  | .age inMinutes bound, h => (h, keepsAge inMinutes bound (h.disk.now - f.entry.time))
  | .newer time, h => (h, decide (time < f.entry.time))
  | .print lineEnd, h => (h.say 1 (f.word ++ lineEnd), true)
  | .format template, h => (h.say 1 (formatText h.disk f template), true)
  | .start isInPlace words, h =>
    let word := if isInPlace then "./" ++ lastName f.word else f.word
    let cwd := if isInPlace then f.place.dropLast else site.cwd
    h.start attempt cwd (words.map (fillBraces word)) 0
  | .gather key words, h => (h.gather key words f.word, true)
  | .ask words, h => (h.say 2 ("< " ++ words.headD "" ++ " ... " ++ f.word ++ " > ? "), false)
  | .delete, h => removeFound site h f
  | .prune, h => ({ h with isPruned := true }, true)
  | .quit, h => ({ h with isOver := true }, true)

/-! ### Walking -/

/-- The entry of a node, a link followed if asked to. -/
def foundAt (disk : Disk) (follows : Bool) (word start : String) (depth : Nat) (cwd : Place)
    (path : Path) : Except Fault Found :=
  match disk.locateEntry cwd false path with
  | .error fault => .error fault
  | .ok (place, entry) =>
    match disk.locateEntry cwd true path with
    | .ok (real, target) =>
      if follows then .ok ⟨word, real, target, .ok entry, depth, start⟩
      else .ok ⟨word, place, entry, .ok target, depth, start⟩
    | .error fault => .ok ⟨word, place, entry, .error fault, depth, start⟩

/-- Looks at an entry, if it is deep enough. -/
def visit (site : Site) (attempt : Trying) (call : FindCall) (f : Found) (h : Hunt) : Hunt :=
  if h.isOver || f.depth < call.scope.minDepth then h
  else (judge site attempt f call.criterion h).1

/-- Walks through an entry and all that is in it. `fuel` bounds how deep it is. -/
def walkFrom (site : Site) (attempt : Trying) (call : FindCall) :
    (fuel : Nat) → Found → Hunt → Hunt
  | 0, _, h => h
  | fuel + 1, f, h =>
    let visited :=
      if call.scope.isInsideOut then { h with isPruned := false }
      else visit site attempt call f { h with isPruned := false }
    let isDeeper := call.scope.maxDepth.all fun n => f.depth < n
    let goesIn :=
      match f.node with
      | .directory => isDeeper && !visited.isPruned && !visited.isOver
      | _ => false
    let walked :=
      if goesIn && !visited.disk.mayList f.place then
        visited.complain site (marked f.word ++ ": " ++ SystemError.accessDenied.words)
      else if goesIn then
        (visited.disk.children f.place).foldl (fun h child =>
          if h.isOver then h
          else
            let word := within f.word (Text.encoded child.1)
            match foundAt h.disk call.scope.followsAll word f.start (f.depth + 1) f.place
                ⟨child.1⟩ with
            | .ok f => walkFrom site attempt call fuel f h
            | .error _ => h) visited
      else visited
    if call.scope.isInsideOut then visit site attempt call f walked else walked

/-- Walks from a place that is named in the call. -/
def walkNamed (site : Site) (attempt : Trying) (call : FindCall) (h : Hunt) (word : String) :
    Hunt :=
  if h.isOver then h
  else
    let follows := call.scope.followsAll || call.scope.followsNamed
    match foundAt h.disk follows word word 0 site.cwd (pathOf word) with
    | .ok f => walkFrom site attempt call (h.disk.entries.length + 2) f h
    | .error fault => h.complain site (marked word ++ ": " ++ wordsOf fault)

/-- Finds entries. Gives the disk, what is to be written and started, and the code. -/
def find (site : Site) (attempt : Trying) (words : List String) : Disk × List BatchStep × Nat :=
  match FindCall.ofWords site words with
  | .error texts => (site.disk, texts.map fun text => .write 2 (message site text), 1)
  | .ok call =>
    let warned := call.scope.warnings.map fun text => BatchStep.write 2 (message site text)
    let h := call.starts.foldl (walkNamed site attempt call)
      ⟨site.disk, warned.reverse, [], 0, false, false⟩
    let h := h.gathered.foldl (fun h g => (h.start attempt site.cwd (g.2.1 ++ g.2.2) 1).1) h
    (h.disk, h.steps.reverse, h.code)

end SnippetForge.Shell.Utility
