import SnippetForge.Shell.Pattern
import SnippetForge.Shell.Utility.Entries

/-!
# Showing files and paths

Listing directories, saying what files are and where links and paths lead, and taking paths apart.
-/

namespace SnippetForge.Shell.Utility

/-! ### Listings -/

/-- The options of `ls`. -/
def lsTable : OptionTable :=
  ⟨"aAdlFprR1tShmQBCnigoLHUxbqfckuGNsXvw:I:T:",
    [("all", 'a'), ("almost-all", 'A'), ("directory", 'd'), ("reverse", 'r'), ("recursive", 'R'),
      ("color", 'N'), ("classify", 'F'), ("quote-name", 'Q'), ("escape", 'b'), ("size", 's'),
      ("human-readable", 'h'), ("dereference", 'L'), ("numeric-uid-gid", 'n'), ("no-group", 'G'),
      ("ignore", 'I'), ("inode", 'i'), ("literal", 'N'), ("width", 'w'), ("ignore-backups", 'B')]⟩

/-- Something that is listed: its name, where it lies and what it is. -/
structure Listed where
  name : String
  place : Place
  entry : Entry

/-- The size of a node in bytes. -/
def sizeOf : Node → Nat
  | .file content => content.size
  | .link target => target.text.utf8ByteSize
  | .directory => 4096
  | _ => 0

/-- How many kilobytes a node takes on the disk. -/
def kilobytesOf : Node → Nat
  | .file content => (content.size + 4095) / 4096 * 4
  | .directory => 4
  | _ => 0

/-- How many names a node has. A directory has one in itself and one in each directory in it. -/
def nameCount (disk : Disk) (place : Place) (entry : Entry) : Nat :=
  if entry.node = .directory then
    2 + ((disk.children place).filter fun e => e.2 == .directory).length
  else (disk.entries.filter fun e => e.2.id == entry.id).length

/-- A name as a listing shows it, with a mark for what it names. -/
def listedName (call : Call) (e : Listed) : String :=
  let name := if call.has 'Q' then "\"" ++ e.name ++ "\"" else e.name
  let mark :=
    match e.entry.node with
    | .directory => if call.hasAny "Fp" then "/" else ""
    | .file _ => if call.has 'F' && e.entry.mode.isExecutableByAny then "*" else ""
    | .link _ => if call.has 'F' && !call.hasAny "lngo" then "@" else ""
    | .pipe => if call.has 'F' then "|" else ""
    | _ => ""
  name ++ mark

/-- The ending of a name, by which listings can be sorted. -/
def endingOf (name : String) : String :=
  let after := name.toList.reverse.takeWhile (· != '.')
  if after.length = name.length then "" else String.ofList ('.' :: after.reverse)

/-- The listed things in order. -/
def sortedListed (call : Call) (es : List Listed) : List Listed :=
  let byName := es.mergeSort fun a b => Disk.nameLe a.name b.name
  let sorted :=
    match call.lastOf? "StXUfv" with
    | some 'S' => byName.mergeSort fun a b => sizeOf b.entry.node ≤ sizeOf a.entry.node
    | some 't' => byName.mergeSort fun a b => b.entry.time ≤ a.entry.time
    | some 'X' => byName.mergeSort fun a b => Disk.nameLe (endingOf a.name) (endingOf b.name)
    | some 'U' => es
    | some 'f' => es
    | _ => byName
  if call.has 'r' && !call.hasAny "Uf" then sorted.reverse else sorted

/-- A size as a listing shows it, rounded up to a few digits if it is to be read by people. -/
def sizeText (call : Call) (size : Nat) : String :=
  if call.has 'h' then readable size ["", "K", "M", "G", "T"] else toString size
where
  /-- A size in the first unit in which it has at most three digits. -/
  readable (size : Nat) : List String → String
    | [] => toString size
    | unit :: units =>
      if size < 1024 || units.isEmpty then toString size ++ unit
      else
        let tenths := (size * 10 + 1023) / 1024
        if size < 1024 * 1024 then
          let next := (units.head?).getD ""
          if tenths < 100 then toString (tenths / 10) ++ "." ++ toString (tenths % 10) ++ next
          else
            let whole := (size + 1023) / 1024
            if whole < 1024 then toString whole ++ next else readable whole units
        else readable ((size + 1023) / 1024) units

/-- The cells of the row about something in a long listing, the name left out. -/
def longCells (disk : Disk) (call : Call) (e : Listed) : List String :=
  let size :=
    match e.entry.node with
    | .device _ => "1, 3"
    | node => sizeText call (sizeOf node)
  let owner := if call.has 'n' then "0" else "root"
  let recent := disk.now - e.entry.time < 15778476 * secondNanos
  let format := if recent then "%b %e %H:%M" else "%b %e  %Y"
  [entryLetters e.entry, toString (nameCount disk e.place e.entry)]
    ++ (if call.has 'g' then [] else [owner]) ++ (if call.hasAny "oG" then [] else [owner])
    ++ [size, dateText e.entry.time format.toList]

/-- Rows of cells as texts, the cells of a column equally wide and the numbers at the right. -/
def alignedRows (rows : List (List String)) : List String :=
  let count := rows.foldl (fun n row => max n row.length) 0
  let widths := (List.range count).map fun n =>
    rows.foldl (fun w row => max w (((row[n]?).map String.length).getD 0)) 0
  let isNumber (cell : String) : Bool := (cell.toList.head?).any Char.isDigit
  rows.map fun row =>
    " ".intercalate ((row.zip widths).map fun c =>
      if isNumber c.1 then padLeft c.2 c.1 else padRight c.2 c.1)

/-- The row of some names in columns, which are filled from top to bottom. -/
def columnsText (names : List String) : String :=
  let count := names.length
  let rowsFor (columns : Nat) : Nat := (count + columns - 1) / columns
  let widthsFor (columns : Nat) : List Nat :=
    let rows := rowsFor columns
    (List.range columns).map fun c =>
      ((names.drop (c * rows)).take rows).foldl (fun w name => max w (name.length + 2)) 0
  let fits (columns : Nat) : Bool :=
    (widthsFor columns).foldl (fun sum w => sum + w) 0 ≤ 80 + 1
      && (columns - 1) * rowsFor columns < count
  let columns := (((List.range (count + 1)).reverse.find? fun c => c != 0 && fits c)).getD 1
  let rows := rowsFor columns
  let widths := widthsFor columns
  unlines ((List.range rows).map fun r =>
    let cells := (List.range columns).filterMap fun c => names[c * rows + r]?
    String.join (cells.dropLast.zip widths |>.map fun c => padRight c.2 c.1) ++ cells.getLastD "")

/-- The lines of a listing. `isDirectory` tells whether it is that of a directory. -/
def listingText (disk : Disk) (call : Call) (isDirectory : Bool) (es : List Listed) : String :=
  let es := sortedListed call es
  let names := es.map (listedName call)
  let total := es.foldl (fun sum e => sum + kilobytesOf e.entry.node) 0
  let totalLine :=
    if isDirectory then
      "total " ++ (if call.has 'h' then sizeText call (total * 1024) else toString total) ++ "\n"
    else ""
  if call.hasAny "lngo" then
    let arrow (e : Listed) : String :=
      match e.entry.node with
      | .link target => " -> " ++ Text.encoded target.text
      | _ => ""
    let rows := alignedRows (es.map (longCells disk call))
    totalLine ++ unlines ((rows.zip (es.zip names)).map fun r =>
      r.1 ++ " " ++ r.2.2 ++ arrow r.2.1)
  else if call.has 's' then
    let cells := es.map fun e => [toString (kilobytesOf e.entry.node)]
    totalLine ++ unlines (((alignedRows cells).zip names).map fun r => r.1 ++ " " ++ r.2)
  else if names.isEmpty then ""
  else
    match call.lastOf? "mCx1" with
    | some 'm' => ", ".intercalate names ++ "\n"
    | some 'C' => columnsText names
    | some 'x' => columnsText names
    | _ => unlines names

/-- What a directory holds, as far as a listing shows it. -/
def shownEntries (disk : Disk) (call : Call) (directory : Place) : List Listed :=
  let listed (name : String) (place : Place) : Listed :=
    ⟨name, place, (disk.entry? place).getD .root⟩
  let es := (disk.sortedChildren directory).map fun e =>
    listed (Text.encoded e.1) (directory ++ [e.1])
  let shown (e : Listed) : Bool :=
    !((call.values 'I').any fun pattern => matchesName pattern e.name)
      && !(call.has 'B' && e.name.endsWith "~")
  let es := es.filter shown
  if call.hasAny "af" then listed "." directory :: listed ".." directory.dropLast :: es
  else if call.has 'A' then es
  else es.filter fun e => e.name.toList.head? != some '.'
where
  /-- Whether a name matches a pattern. -/
  matchesName (pattern name : String) : Bool :=
    (Pattern.ofText pattern).accepts name.toList

/-- The listings of a directory and, if asked for, of those below it, each with its name. -/
def directoryListings (disk : Disk) (call : Call) : (fuel : Nat) → (word : String) → Place →
    List (String × String)
  | 0, _, _ => []
  | fuel + 1, word, place =>
    let es := shownEntries disk call place
    let isBelow (e : Listed) : Bool :=
      e.entry.node == .directory && e.name != "." && e.name != ".."
    let below := if call.has 'R' then (sortedListed call es).filter isBelow else []
    (word, listingText disk call true es) ::
      below.flatMap fun e => directoryListings disk call fuel (within word e.name) e.place

/-- Lists directories and names files. -/
def ls (site : Site) (words : List String) : Outcome :=
  let words := words.map fun w => if w.startsWith "--color=" then "--color" else w
  withCall site lsTable 2 words fun call =>
    let names := if call.operands.isEmpty then ["."] else call.operands
    let follows := !call.hasAny "dlFngo"
    let find (word : String) : Except Fault (Place × Entry) :=
      match site.disk.locateEntry site.cwd (call.has 'L') (pathOf word) with
      | .ok (place, entry) =>
        match if follows || call.has 'H' then site.disk.locateEntry site.cwd true (pathOf word)
          else .ok (place, entry) with
        | .ok (target, other) =>
          if other.node = .directory then .ok (target, other) else .ok (place, entry)
        | .error _ => .ok (place, entry)
      | .error fault => .error fault
    let found : List Listed := names.filterMap fun word =>
      match find word with
      | .ok (place, entry) => some ⟨word, place, entry⟩
      | .error _ => none
    let isListed (e : Listed) : Bool := e.entry.node == .directory && !call.has 'd'
    let files := found.filter fun e => !isListed e
    let directories := sortedListed call (found.filter isListed)
    let closed := directories.filter fun e => !site.disk.mayList e.place
    let depth := site.disk.entries.length + 1
    let listings := (directories.filter fun e => site.disk.mayList e.place).flatMap fun e =>
      directoryListings site.disk call depth e.name e.place
    let showsNames := names.length != 1 || call.has 'R'
    let blocks := listings.map fun l => (if showsNames then l.1 ++ ":\n" else "") ++ l.2
    let blocks :=
      if files.isEmpty then blocks else listingText site.disk call false files :: blocks
    let refused := forEach site (fun o word =>
      match find word with
      | .ok _ => o
      | .error fault =>
        o.note (message site ("cannot access " ++ quoted word ++ ": " ++ wordsOf fault)) 2) names
    let refused := closed.foldl (fun o e =>
      o.note (message site ("cannot open directory " ++ quoted e.name ++ ": "
        ++ SystemError.accessDenied.words)) 2) refused
    refused.write ("\n".intercalate blocks)

/-! ### Where paths lead -/

/-- The place that a path would mean if what is missing on its way were there. -/
def placeOf (site : Site) (word : String) : Place :=
  let start := if (pathOf word).isAbsolute then [] else site.cwd
  (pathOf word).segments.foldl (fun place segment =>
    if segment = "" || segment = "." then place
    else if segment = ".." then place.dropLast
    else
      match site.disk.locateNode place true ⟨segment⟩ with
      | .ok (place, _) => place
      | .error _ => place ++ [segment]) start

/-- The place that a path means, of which only the last name may be missing. -/
def placeOrFree (site : Site) (word : String) : Except Fault Place :=
  match site.disk.locate site.cwd true (Disk.dropEndSlashes (pathOf word)) with
  | .ok (.taken place _) => .ok place
  | .ok (.free directory name) => .ok (directory ++ [name])
  | .error fault => .error fault

/-- The place that a path means, by the letter of the option that says what may be missing. -/
def resolved (site : Site) (kind : Option Char) (word : String) : Except Fault Place :=
  match kind with
  | some 'm' => if word = "" then .error (.system .noEntry) else .ok (placeOf site word)
  | some 'e' => site.disk.canonical site.cwd (pathOf word)
  | _ => placeOrFree site word

/-- The path of a place as octets. -/
def placeText (place : Place) : String :=
  Text.encoded place.path.text

/-- The options of `readlink`. -/
def readlinkTable : OptionTable :=
  ⟨"femnqsvz",
    [("canonicalize", 'f'), ("canonicalize-existing", 'e'), ("canonicalize-missing", 'm'),
      ("no-newline", 'n'), ("quiet", 'q'), ("silent", 's'), ("verbose", 'v'), ("zero", 'z')]⟩

/-- Says where links lead, or where paths really lie. -/
def readlink (site : Site) (words : List String) : Outcome :=
  withCall site readlinkTable 1 words fun call =>
    let finish := if call.has 'z' then "\x00"
      else if call.has 'n' && call.operands.length = 1 then "" else "\n"
    onOperands site call "missing operand" fun o word =>
      let refuse (words : String) : Outcome :=
        o.note (if call.has 'v' then message site (nameText word ++ ": " ++ words) else "") 1
      match call.lastOf? "fem" with
      | some kind =>
        match resolved site (some kind) word with
        | .ok place => o.write (placeText place ++ finish)
        | .error fault => refuse (wordsOf fault)
      | none =>
        match site.disk.locateNode site.cwd false (pathOf word) with
        | .ok (_, .link target) => o.write (Text.encoded target.text ++ finish)
        | .ok _ => refuse "Invalid argument"
        | .error fault => refuse (wordsOf fault)

/-- The options of `realpath`. -/
def realpathTable : OptionTable :=
  ⟨"emsqzLPt:b:",
    [("canonicalize-existing", 'e'), ("canonicalize-missing", 'm'), ("quiet", 'q'),
      ("strip", 's'), ("no-symlinks", 's'), ("zero", 'z'), ("relative-to", 't'),
      ("relative-base", 'b')]⟩

/-- Says where paths really lie. -/
def realpath (site : Site) (words : List String) : Outcome :=
  withCall site realpathTable 1 words fun call =>
    onOperands site call "missing operand" fun o word =>
      let logical : Place :=
        let start := if (pathOf word).isAbsolute then [] else site.cwd
        (pathOf word).segments.foldl (fun place segment =>
          if segment = "" || segment = "." then place
          else if segment = ".." then place.dropLast
          else place ++ [segment]) start
      let result := if call.has 's' then .ok logical else resolved site (call.lastOf? "em") word
      match result with
      | .ok place =>
        let text :=
          match call.value? 't' with
          | some base => relativePath (placeOf site base) place
          | none => placeText place
        o.write (text ++ if call.has 'z' then "\x00" else "\n")
      | .error fault =>
        o.note (if call.has 'q' then "" else message site (nameText word ++ ": " ++ wordsOf fault)) 1

/-! ### What files are -/

/-- The words for the kind of a node. -/
def kindText : Node → String
  | .directory => "directory"
  | .file content => if content.isEmpty then "regular empty file" else "regular file"
  | .link _ => "symbolic link"
  | .pipe => "fifo"
  | .device _ => "character special file"

/-- The bits for the kind of a node. -/
def kindBits : Node → Nat
  | .directory => 16384
  | .file _ => 32768
  | .link _ => 40960
  | .pipe => 4096
  | .device _ => 8192

/-- The octal digits of a number. -/
def octalDigits (n : Nat) : String :=
  String.ofList (Nat.toDigits 8 n)

/-- What a letter of a format for files stands for. -/
def statItem (disk : Disk) (word : String) (place : Place) (entry : Entry) (c : Char) : String :=
  let fullDate (time : Nat) : String := dateText time "%Y-%m-%d %H:%M:%S.%N %z".toList
  match c with
  | 'n' => word
  | 's' => toString (sizeOf entry.node)
  | 'F' => kindText entry.node
  | 'a' => octalDigits entry.mode
  | 'A' => entryLetters entry
  | 'f' => String.ofList (Nat.toDigits 16 (kindBits entry.node + entry.mode))
  | 'N' =>
    match entry.node with
    | .link target => quoted word ++ " -> " ++ quoted (Text.encoded target.text)
    | _ => quoted word
  | 'U' => "root"
  | 'G' => "root"
  | 'u' => "0"
  | 'g' => "0"
  | 'h' => toString (nameCount disk place entry)
  | 'i' => toString entry.id
  | 'b' => toString (kilobytesOf entry.node * 2)
  | 'B' => "512"
  | 'o' => "4096"
  | 'd' => "1"
  | 't' => "0"
  | 'T' => "0"
  | 'X' => toString (entry.time / secondNanos)
  | 'Y' => toString (entry.time / secondNanos)
  | 'Z' => toString (entry.time / secondNanos)
  | 'x' => fullDate entry.time
  | 'y' => fullDate entry.time
  | 'z' => fullDate entry.time
  | '%' => "%"
  | _ => "?"

/-- A text in the field that the characters before a letter of a format ask for. -/
def inStatField (spec : List Char) (text : String) : String :=
  let width := Text.digitsValue ((spec.dropWhile fun c => !('1' ≤ c && c ≤ '9')).takeWhile
    Char.isDigit)
  if spec.contains '-' then padRight width text
  else if spec.contains '0' && (spec.takeWhile fun c => !('1' ≤ c && c ≤ '9')).contains '0' then
    String.ofList (List.replicate (width - text.length) '0') ++ text
  else padLeft width text

/-- The character that a letter after a backslash stands for. -/
def statEscape (c : Char) : Char :=
  ([('n', '\n'), ('t', '\t'), ('a', '\x07'), ('r', '\x0d'), ('b', '\x08'), ('f', '\x0c'),
    ('v', '\x0b'), ('0', '\x00')].lookup c).getD c

/-- Fills a format for files. `spec` is what has been read of an item. -/
def statText (item : Char → String) (hasEscapes : Bool) : (spec : Option (List Char)) →
    List Char → String
  | none, [] => ""
  | some _, [] => "%"
  | some spec, c :: rest =>
    if "-+# '.0123456789".toList.contains c then
      statText item hasEscapes (some (spec ++ [c])) rest
    else inStatField spec (item c) ++ statText item hasEscapes none rest
  | none, '%' :: rest => statText item hasEscapes (some []) rest
  | none, '\\' :: c :: rest =>
    (if hasEscapes then String.singleton (statEscape c) else String.ofList ['\\', c])
      ++ statText item hasEscapes none rest
  | none, c :: rest => String.singleton c ++ statText item hasEscapes none rest

/-- What is said about a file if no format is given. -/
def statBlock : String :=
  "  File: %N\n  Size: %-10s\tBlocks: %-10b IO Block: %-6o %F\nDevice: %d\tInode: %-10i  Links: %h\n"
    ++ "Access: (%04a/%10.10A)  Uid: (%5u/%8U)   Gid: (%5g/%8G)\nAccess: %x\nModify: %y\n"
    ++ "Change: %z\n Birth: %w"

/-- The options of `stat`. -/
def statTable : OptionTable :=
  ⟨"c:Lftp:", [("format", 'c'), ("dereference", 'L'), ("printf", 'p'), ("terse", 't')]⟩

/-- Says what files are. -/
def stat (site : Site) (words : List String) : Outcome :=
  withCall site statTable 1 words fun call =>
    onOperands site call "missing operand" fun o word =>
      match o.disk.locateEntry site.cwd (call.has 'L') (pathOf word) with
      | .error fault =>
        o.note (message site ("cannot statx " ++ quoted word ++ ": " ++ wordsOf fault)) 1
      | .ok (place, entry) =>
        let item := statItem o.disk word place entry
        match call.lastOf? "cp" with
        | some 'p' => o.write (statText item true none ((call.value? 'p').getD "").toList)
        | some _ => o.write (statText item false none ((call.value? 'c').getD "").toList ++ "\n")
        | none => o.write (statText item false none statBlock.toList ++ "\n")

/-! ### Parts of paths -/

/-- The directory part of a path. -/
def dirname (word : String) : String :=
  match (withoutSlashes word).toList.reverse.dropWhile (· != '/') with
  | [] => if word.toList.head? = some '/' then "/" else "."
  | cs =>
    match (cs.dropWhile (· == '/')).reverse with
    | [] => "/"
    | cs => String.ofList cs

/-- The options of `dirname`. -/
def dirnameTable : OptionTable :=
  ⟨"z", [("zero", 'z')]⟩

/-- Writes the directory parts of paths. -/
def dirnames (site : Site) (words : List String) : Outcome :=
  withCall site dirnameTable 1 words fun call =>
    onOperands site call "missing operand" fun o word =>
      o.write (dirname word ++ if call.has 'z' then "\x00" else "\n")

/-- The last name of a path, without an ending that it has besides other characters. -/
def basename (word ending : String) : String :=
  let name := (lastName word).toList
  let cut := name.length - ending.length
  if name.drop cut = ending.toList && 0 < cut && ending != "" then String.ofList (name.take cut)
  else String.ofList name

/-- The options of `basename`. -/
def basenameTable : OptionTable :=
  ⟨"as:z", [("multiple", 'a'), ("suffix", 's'), ("zero", 'z')]⟩

/-- Writes the last names of paths. -/
def basenames (site : Site) (words : List String) : Outcome :=
  match Call.readLeading basenameTable words with
  | .error flaw => misuse site flaw.words 1
  | .ok call =>
    let finish := if call.has 'z' then "\x00" else "\n"
    let ending := (call.value? 's').getD ""
    if call.hasAny "as" then
      onOperands site call "missing operand" fun o word => o.write (basename word ending ++ finish)
    else
      match call.operands with
      | [] => misuse site "missing operand" 1
      | [word] => prints site (basename word "" ++ finish)
      | [word, ending] => prints site (basename word ending ++ finish)
      | _ :: _ :: word :: _ => misuse site ("extra operand " ++ marked word) 1

end SnippetForge.Shell.Utility
